import PodTail.Proofs.Api.Reading
import PodTail.Proofs.Json.Object

/-!
# The report on a pod that is not there

The server answers a request for a missing pod with a report, which quotes the pod's name. The
client reads the report back from its text (`reportOf`), and turns a code of 404 into `podNotFound`.
Whatever the name is, this works: `code_podNotFound`, and `forPod_podNotFound` for the failure that
is made of it.

It would be hard to read the whole text for an unknown name, and it is not necessary. The code
stands before the message (`reportHead`), and `Json.Reader.read_prefix` says that what has been read
stays. So if the text can be read at all, the code is the one that was written (`read_report`), and
if it cannot, the report is made from the status, which is 404 as well.
-/

set_option autoImplicit false

namespace PodTail

namespace Api

open Json.Reader

/-- The beginning of a report's text, behind its brace. It does not depend on the name. -/
def reportHead : String := "\"apiVersion\":\"v1\",\"code\":404"

theorem text_podNotFound (name : String) :
    ∃ more, (podNotFound name).text = "\x7b" ++ (reportHead ++ "," ++ more) := by
  have head : Json.quote "apiVersion" ++ ":" ++ (Json.text "v1").compact ++ "," ++
      (Json.quote "code" ++ ":" ++ (Json.int 404).compact) = reportHead :=
    rfl
  obtain ⟨more, text⟩ := Json.compact_two "apiVersion" "code" (.text "v1") (.int 404)
    ("kind", .text "Status") [("message", .text ("pods \"" ++ name ++ "\" not found")),
      ("metadata", .object []), ("reason", .text "NotFound"), ("status", .text "Failure")]
  rw [head] at text
  exact ⟨more, text⟩

theorem bytes_podNotFound (name : String) :
    ∃ rest, Utf8.bytes (podNotFound name).text =
      0x7B :: (Utf8.bytes reportHead ++ 0x2C :: rest) := by
  obtain ⟨more, text⟩ := text_podNotFound name
  have brace : Utf8.bytes "\x7b" = [0x7B] := rfl
  have comma : Utf8.bytes "," = [0x2C] := rfl
  refine ⟨Utf8.bytes more, ?_⟩
  rw [text, Utf8.bytes_append, Utf8.bytes_append, Utf8.bytes_append, brace, comma,
    List.append_assoc]
  rfl

/-- Reading the members of a report as far as its code: one is passed over, and one is read. -/
theorem members_reportHead (k : Nat) (rest : List UInt8) :
    membersFrom (k + 20) 126 Schema.report true [] (Utf8.bytes reportHead ++ 0x2C :: rest) =
      membersFrom (k + 18) 126 Schema.report false [("code", .int 404)] (0x2C :: rest) := by
  have bytes : Utf8.bytes reportHead =
      0x22 :: (Utf8.bytes "apiVersion" ++ 0x22 :: 0x3A :: 0x22 :: 0x76 :: 0x31 :: 0x22 ::
        0x2C :: 0x22 :: (Utf8.bytes "code" ++ 0x22 :: 0x3A :: [0x34, 0x30, 0x34])) :=
    rfl
  have lengths : (Utf8.bytes "apiVersion").length = 10 ∧ (Utf8.bytes "code").length = 4 :=
    ⟨rfl, rfl⟩
  -- the version is passed over, since nobody asks for it
  have version (rest : List UInt8) :
      key (k + 19) Schema.report [] (Utf8.bytes "apiVersion" ++ 0x22 :: 0x3A :: rest) =
        .ok ("apiVersion", rest) :=
    key_plain (List.all_eq_true.mp rfl) rfl (by omega) rest
  have passed (rest : List UInt8) : passFrom (k + 19) [] (0x22 :: 0x76 :: 0x31 :: 0x22 :: rest) =
      .ok rest := rfl
  have code (rest : List UInt8) :
      key (k + 18) Schema.report [] (Utf8.bytes "code" ++ 0x22 :: 0x3A :: rest) =
        .ok ("code", rest) :=
    key_plain (List.all_eq_true.mp rfl) rfl (by omega) rest
  have value : valueFrom (k + 18) 126 .any (0x34 :: 0x30 :: 0x34 :: 0x2C :: rest) =
      .ok (.int 404, 0x2C :: rest) := by
    rw [valueFrom]
    rfl
  simp only [bytes, List.cons_append, List.append_assoc, List.nil_append]
  rw [members_passed (version _) rfl (passed _), members_read (code _) rfl value]

/-- If a report is read, its first member is the code. -/
theorem read_report {s : String} {j : Json} {rest : List UInt8}
    (bytes : Utf8.bytes s = 0x7B :: (Utf8.bytes reportHead ++ 0x2C :: rest))
    (h : Json.read Schema.report s = .ok j) : ∃ m, j = .object (("code", .int 404) :: m) := by
  have wanted : Schema.report.isObject = true := rfl
  have given : ∀ s, Schema.report ≠ .optional s := by
    intro s same
    cases same
  obtain ⟨m, left, rfl, members⟩ := read_brace wanted given bytes h
  -- the fuel grows with the text, so there is enough of it for the head, whatever follows
  have room : ∃ k, 4 * (Utf8.bytes reportHead ++ 0x2C :: rest).length + 6 = k + 20 := by
    have long : 28 ≤ (Utf8.bytes reportHead).length := by decide
    refine ⟨4 * (Utf8.bytes reportHead ++ 0x2C :: rest).length + 6 - 20, ?_⟩
    rw [List.length_append]
    omega
  obtain ⟨k, room⟩ := room
  rw [room, members_reportHead] at members
  obtain ⟨more, rfl⟩ := read_prefix members
  exact ⟨more, rfl⟩

theorem code_of_reportFrom {status message reason : String} {code : Int} {r : StatusReport}
    (h : reportFrom? status message reason code = some r) : (r.code : Int) = code := by
  unfold reportFrom? at h
  split at h
  next bounds =>
    cases h
    exact Int.toNat_of_nonneg bounds.1
  next => cases h

/-- If the report is read by the names of its parts, its code is 404. -/
theorem named_podNotFound {name : String} {r : StatusReport}
    (h : namedReport? (podNotFound name).text = some r) : r.code = 404 := by
  obtain ⟨rest, bytes⟩ := bytes_podNotFound name
  unfold namedReport? at h
  cases read : Json.read Schema.report (podNotFound name).text with
  | error fault =>
    rw [read] at h
    cases h
  | ok j =>
    obtain ⟨m, rfl⟩ := read_report bytes read
    simp only [read, Except.toOption, Option.bind_eq_bind, Option.bind_eq_some_iff] at h
    obtain ⟨_, same, status, _, message, _, reason, _, code, ⟨found, under, whole⟩, report⟩ := h
    cases same
    split at report
    next each =>
      -- a report is read so only if no part stands twice, so the code is the one in front
      have single : once "code" (.object (("code", .int 404) :: m)) = true :=
        List.all_eq_true.mp each "code" (by simp)
      have first : Json.lastUnder "code" (("code", .int 404) :: m) = some (.int 404) :=
        Json.lastUnder_head (of_decide_eq_true single)
      rw [Json.member?, first] at under
      cases under
      cases whole
      have said := code_of_reportFrom report
      omega
    next => cases report

/-- The report is never read by the order of its parts, since it begins with a brace. -/
theorem ordered_podNotFound (name : String) : orderedReport? (podNotFound name).text = none := by
  obtain ⟨rest, bytes⟩ := bytes_podNotFound name
  unfold orderedReport? Json.parse
  split
  next parsed =>
    obtain ⟨_, _, object, _⟩ := read_brace rfl (fun _ same => by cases same) bytes parsed
    cases object
  next => rfl

/-- The report on a missing pod has the code 404, whatever the pod is called. -/
theorem code_podNotFound (name : String) :
    (reportOf 404 (podNotFound name).text).code = 404 := by
  unfold reportOf
  rw [ordered_podNotFound, Option.or_none]
  cases read : namedReport? (podNotFound name).text with
  | none => rfl
  | some r => exact named_podNotFound read

theorem forPod_podNotFound (name : String) :
    (ClusterFailure.refused (reportOf 404 (podNotFound name).text)).forPod name =
      .podNotFound name := by
  rw [ClusterFailure.forPod, if_pos (code_podNotFound name)]

end Api

end PodTail
