import PodTail.Api.Request
import PodTail.Api.Server
import PodTail.Proofs.Net.Form
import PodTail.Proofs.Net.Uri

/-!
# Where a request goes

The client writes a request into an address (`Request.address`), and the server reads a path and a
query from it. Here both ends are put together, for names that are a `Piece`: no slash, no `?` and
no `#` in them.

* `target_eq`: the address is read as the request's own path and query, or refused for its length or
  its characters, in which case nothing is sent.
* `route_path`: the server finds in the path what the request names.
* `param_selector` and `param_container`: it finds in the query the value that was asked for,
  whatever characters that holds, since `Form.encodeText` escapes them.

Nothing else is said about the names: they may hold percent signs, which nobody decodes. Names that
are no pieces go astray, as `Server.question_mark_goes_astray` shows.
-/

set_option autoImplicit false

namespace PodTail

namespace Api

theorem not_mem_append {c : Char} {s t : String} (hs : c ∉ s.toList) (ht : c ∉ t.toList) :
    c ∉ (s ++ t).toList := by
  rw [String.toList_append, List.mem_append]
  exact fun mem => mem.elim hs ht

/-- A text that stays one piece of a path when it is put into one. -/
structure Piece (s : String) : Prop where
  slash : '/' ∉ s.toList
  query : '?' ∉ s.toList
  fragment : '#' ∉ s.toList

namespace Request

/-! ## Paths and queries

`address` is one text. `path` and `query?` are its two parts, as `address_eq` says. -/

/-- The words for a tail in a query. -/
def tailText : Option Int → String
  | some n => "&tailLines=" ++ toString n
  | none => ""

/-- The path of a request's address. -/
def path : Request → String
  | .list ns _ => podsPath ns
  | .get ns pod => podsPath ns ++ "/" ++ pod
  | .log ns pod _ _ => podsPath ns ++ "/" ++ pod ++ "/log"

/-- The query of a request's address. -/
def query? : Request → Option String
  | .list _ selector => some ("&" ++ "labelSelector" ++ "=" ++ Form.encodeText selector ++ "")
  | .get .. => none
  | .log _ _ container tail =>
    some ("&" ++ "container" ++ "=" ++ Form.encodeText container ++ ("&follow=true" ++ tailText tail))

theorem address_eq (r : Request) :
    r.address = match r.query? with
      | none => r.path
      | some query => r.path ++ "?" ++ query := by
  cases r with
  | get => rfl
  | list ns selector => simp [address, query?, path, ← String.toList_inj]
  | log ns pod container tail =>
    cases tail <;> simp [address, query?, path, tailText, ← String.toList_inj]

/-! ## Characters

Which characters can occur in the parts: no `#` in a query, and no separator in a path but those
that the request puts there. -/

theorem toString_chars (n : Int) : ∀ c ∈ (toString n).toList, c.isDigit = true ∨ c = '-' := by
  intro c mem
  rw [Int.toString_eq_repr, Int.repr_eq_if] at mem
  -- digits alone, or a dash in front of them
  split at mem
  · rw [Nat.toList_repr] at mem
    exact Or.inl (Nat.isDigit_of_mem_toDigits (by decide) (by decide) mem)
  · rw [String.toList_append, List.mem_append, Nat.toList_repr] at mem
    rcases mem with mem | mem
    · exact Or.inr (by simpa using mem)
    · exact Or.inl (Nat.isDigit_of_mem_toDigits (by decide) (by decide) mem)

theorem encodeText_fragment (s : String) : '#' ∉ (Form.encodeText s).toList := by
  intro mem
  have byte := Utf8.ofNat_mem_bytes mem (by decide)
  rw [Form.bytes_encodeText] at byte
  exact (Form.isWritten_spec _ (Form.encode_written _ _ byte)).2.2.2 rfl

theorem tailText_fragment (tail : Option Int) : '#' ∉ (tailText tail).toList := by
  cases tail with
  | none => simp [tailText]
  | some n =>
    refine not_mem_append (by decide) fun mem => ?_
    rcases toString_chars n '#' mem with digit | dash
    · exact absurd digit (by decide)
    · exact absurd dash (by decide)

/-- No query that is written holds a `#`, which would cut the address off. -/
theorem query_fragment {r : Request} {query : String} (h : r.query? = some query) :
    '#' ∉ query.toList := by
  cases r with
  | get => cases h
  | list ns selector =>
    cases h
    exact not_mem_append (not_mem_append (by decide) (encodeText_fragment selector)) (by decide)
  | log ns pod container tail =>
    cases h
    exact not_mem_append (not_mem_append (by decide) (encodeText_fragment container))
      (not_mem_append (by decide) (tailText_fragment tail))

/-- The names that a request puts into its path. -/
def names : Request → List String
  | .list ns _ => [ns]
  | .get ns pod => [ns, pod]
  | .log ns pod _ _ => [ns, pod]

theorem podsPath_not_mem {c : Char} {ns : String} (h : c ∉ ns.toList)
    (other : c ∉ "/api/v1/namespaces/".toList ∧ c ∉ "/pods".toList) : c ∉ (podsPath ns).toList :=
  not_mem_append (not_mem_append other.1 h) other.2

theorem path_not_mem {r : Request} {c : Char} (h : ∀ name ∈ r.names, c ∉ name.toList)
    (other : c ∉ "/api/v1/namespaces/".toList ∧ c ∉ "/pods".toList)
    (parts : c ∉ "/".toList ∧ c ∉ "/log".toList) : c ∉ r.path.toList := by
  cases r with
  | list ns selector => exact podsPath_not_mem (h ns (by simp [names])) other
  | get ns pod =>
    exact not_mem_append (not_mem_append (podsPath_not_mem (h ns (by simp [names])) other) parts.1)
      (h pod (by simp [names]))
  | log ns pod container tail =>
    exact not_mem_append (not_mem_append (not_mem_append
      (podsPath_not_mem (h ns (by simp [names])) other) parts.1) (h pod (by simp [names]))) parts.2

theorem path_whole {r : Request} (pieces : ∀ name ∈ r.names, Piece name) : Uri.Whole r.path where
  query := path_not_mem (fun name mem => (pieces name mem).query) (by decide) (by decide)
  fragment := path_not_mem (fun name mem => (pieces name mem).fragment) (by decide) (by decide)

theorem podsPath_slash (ns rest : String) :
    ∃ more, Utf8.bytes (podsPath ns ++ rest) = '/'.toUInt8 :: more := by
  have start : Utf8.bytes "/api/v1/namespaces/" = '/'.toUInt8 :: Utf8.bytes "api/v1/namespaces/" :=
    rfl
  unfold podsPath
  rw [Utf8.bytes_append, Utf8.bytes_append, Utf8.bytes_append, start, List.cons_append]
  exact ⟨_, rfl⟩

theorem path_slash (r : Request) (rest : String) :
    ∃ more, Utf8.bytes (r.path ++ rest) = '/'.toUInt8 :: more := by
  cases r with
  | list ns selector => exact podsPath_slash ns rest
  | get ns pod =>
    rw [path, String.append_assoc, String.append_assoc]
    exact podsPath_slash ns _
  | log ns pod container tail =>
    rw [path, String.append_assoc, String.append_assoc, String.append_assoc]
    exact podsPath_slash ns _

/-! ## Targets -/

/-- Whether a request's address holds only what addresses may hold. -/
def admitted (r : Request) : Bool :=
  (Utf8.bytes r.path).all Uri.inPath && (Utf8.bytes (r.query?.getD "")).all Uri.inQuery

/-- Where a request is sent: its own path and query, if its address is short and admitted. -/
theorem target_eq {r : Request} (pieces : ∀ name ∈ r.names, Piece name)
    (named : ∀ ns, r ≠ .get ns "") :
    r.target =
      if Uri.lengthLimit < (Utf8.bytes r.address).length then .error (.badAddress .tooLong)
      else if r.admitted then .ok ⟨r.path, r.query?⟩ else .error (.badAddress .badCharacter) := by
  -- only a pod without a name is refused before its address is read
  have sent : r.target = (Uri.read r.address).mapError .badAddress := by
    unfold target
    split
    next ns => exact absurd rfl (named ns)
    next => rfl
  have whole := path_whole pieces
  have starts : Utf8.bytes r.path ≠ [] := by
    obtain ⟨more, slash⟩ := path_slash r ""
    rw [String.append_empty] at slash
    simp [slash]
  rw [sent, address_eq]
  cases query : r.query? with
  | none =>
    obtain ⟨more, slash⟩ := path_slash r ""
    rw [String.append_empty] at slash
    rw [Uri.read_slash _ slash, Uri.target_path whole starts]
    simp only [admitted, query, Option.getD_none, show Utf8.bytes "" = [] from rfl, List.all_nil,
      Bool.and_true]
    split
    · rfl
    split <;> rfl
  | some q =>
    obtain ⟨more, slash⟩ := path_slash r ("?" ++ q)
    rw [← String.append_assoc] at slash
    rw [Uri.read_slash _ slash, Uri.target_query whole starts (query_fragment query)]
    simp only [admitted, query, Option.getD_some]
    split
    · rfl
    split <;> rfl

/-- The same without the reasons: a request is sent to its own path and query, or not at all. -/
theorem target_cases {r : Request} (pieces : ∀ name ∈ r.names, Piece name) :
    r.target = .ok ⟨r.path, r.query?⟩ ∨ ∃ cause, r.target = .error cause := by
  by_cases unnamed : ∃ ns, r = .get ns ""
  · obtain ⟨ns, rfl⟩ := unnamed
    exact Or.inr ⟨.emptyName, rfl⟩
  · rw [target_eq pieces (not_exists.mp unnamed)]
    split
    · exact Or.inr ⟨_, rfl⟩
    split
    · exact Or.inl rfl
    · exact Or.inr ⟨_, rfl⟩

/-! ## What the server reads

The server takes the path apart at its slashes (`Uri.segments`) and the query into pairs
(`Form.pairs`). -/

theorem segments_pods {ns : String} (h : '/' ∉ ns.toList) (rest : String) (query : Option String) :
    Uri.segments ⟨podsPath ns ++ rest, query⟩ =
      ["", "api", "v1", "namespaces", ns] ++ Uri.segments ⟨"pods" ++ rest, query⟩ := by
  have root : "/api/v1/namespaces/".toList =
      [] ++ '/' :: ("api".toList ++ '/' :: ("v1".toList ++ '/' :: ("namespaces".toList ++ ['/']))) :=
    rfl
  have pods : "/pods".toList = '/' :: "pods".toList := rfl
  -- with every slash in sight, `Cut.every_append` takes off one piece at a time
  have parted : (podsPath ns ++ rest).toList =
      [] ++ '/' :: ("api".toList ++ '/' :: ("v1".toList ++ '/' :: ("namespaces".toList ++ '/' ::
        (ns.toList ++ '/' :: ("pods" ++ rest).toList)))) := by
    unfold podsPath
    rw [String.toList_append, String.toList_append, String.toList_append, String.toList_append, root,
      pods]
    simp only [List.append_assoc, List.cons_append, List.nil_append]
  unfold Uri.segments
  rw [parted, Cut.every_append (by decide), Cut.every_append (by decide),
    Cut.every_append (by decide), Cut.every_append (by decide), Cut.every_append h]
  simp only [List.map_cons, String.ofList_toList, String.ofList_nil, List.cons_append,
    List.nil_append]

/-- What a request asks the server for. -/
def route : Request → Server.Route
  | .list ns _ => .list ns
  | .get ns pod => .get ns pod
  | .log ns pod _ _ => .log ns pod

/-- The server finds in the path what the request names, for each of the three kinds of request. -/
theorem route_path {r : Request} (pieces : ∀ name ∈ r.names, Piece name) (query : Option String) :
    Server.route? ⟨r.path, query⟩ = some r.route := by
  cases r with
  | list ns selector =>
    have own := pieces ns (by simp [names])
    have segments : Uri.segments ⟨podsPath ns ++ "", query⟩ =
        ["", "api", "v1", "namespaces", ns, "pods"] := by
      rw [segments_pods own.slash, String.append_empty, Uri.segments_last _ (by decide)]
      rfl
    rw [String.append_empty] at segments
    simp only [Server.route?, path, segments]
    rfl
  | get ns pod =>
    have own := pieces ns (by simp [names])
    have named := pieces pod (by simp [names])
    have segments : Uri.segments ⟨podsPath ns ++ ("/" ++ pod), query⟩ =
        ["", "api", "v1", "namespaces", ns, "pods", pod] := by
      rw [segments_pods own.slash, ← String.append_assoc, Uri.segments_cons _ (by decide),
        Uri.segments_last _ named.slash]
      rfl
    rw [← String.append_assoc] at segments
    simp only [Server.route?, path, segments]
    rfl
  | log ns pod container tail =>
    have own := pieces ns (by simp [names])
    have named := pieces pod (by simp [names])
    have last : "/log" = "/" ++ "log" := rfl
    have segments : Uri.segments ⟨podsPath ns ++ ("/" ++ (pod ++ "/log")), query⟩ =
        ["", "api", "v1", "namespaces", ns, "pods", pod, "log"] := by
      rw [segments_pods own.slash, ← String.append_assoc, Uri.segments_cons _ (by decide), last,
        ← String.append_assoc, Uri.segments_cons _ named.slash, Uri.segments_last _ (by decide)]
      rfl
    rw [← String.append_assoc, ← String.append_assoc] at segments
    simp only [Server.route?, path, segments]
    rfl

theorem param_selector (ns selector : String) :
    Server.param ⟨(list ns selector).path, (list ns selector).query?⟩ "labelSelector" = selector := by
  have found := @Form.lookup_pairs "labelSelector" "" selector (List.all_eq_true.mp rfl) (Or.inl rfl)
  simp only [Server.param, query?, Option.map_some, Option.bind_some, found, Option.getD_some]

theorem param_container (ns pod container : String) (tail : Option Int) :
    Server.param ⟨(log ns pod container tail).path, (log ns pod container tail).query?⟩
      "container" = container := by
  have more : Utf8.bytes ("&follow=true" ++ tailText tail) =
      0x26 :: (Utf8.bytes "follow=true" ++ Utf8.bytes (tailText tail)) := by
    have start : Utf8.bytes "&follow=true" = 0x26 :: Utf8.bytes "follow=true" := rfl
    rw [Utf8.bytes_append, start, List.cons_append]
  have found := @Form.lookup_pairs "container" ("&follow=true" ++ tailText tail) container
    (List.all_eq_true.mp rfl) (Or.inr ⟨_, more⟩)
  simp only [Server.param, query?, Option.map_some, Option.bind_some, found, Option.getD_some]

end Request

end Api

end PodTail
