import PodTail.Proofs.Api.Mirror
import PodTail.Proofs.Api.Names
import PodTail.Proofs.Api.Report
import PodTail.Proofs.Api.Serving
import PodTail.Proofs.Lookup.Asks

/-!
# A memory and a server that mirrors it

There are two clusters, one in memory and one behind an API server, and a target's log is to open in
the same way with both. `opens_alike` says so for a server that mirrors the memory: the same log or
the same failure, and as many logs opened.

The proof is a simulation. `alike` shows that the two answer alike (`Lookup.Alike`), with `Mirrors`
for the relation between their states and with one lemma for each kind of question (`Mirrors.list`,
`Mirrors.get`, `Mirrors.log`). They do so for questions that are `Plain` and `Short`: names of the
alphabets that namespaces, pods and labels have, and addresses within the limit. `asks_openTarget`
shows that opening a plain target asks plain questions only, so `Lookup.run_alike` applies.

That addresses are `Short` remains a hypothesis, since a container may have any name. It cannot be
dropped: if the address of a log is too long, the memory opens the log and no server does
(`parts_beyond_limit`).
-/

set_option autoImplicit false

namespace PodTail

namespace Api

open Lookup (Question)

/-! ## Questions -/

/-- The request that a question is asked with. -/
def requestOf : Question → Request
  | .list ns selector => .list ns (Selector.text selector)
  | .get ns pod => .get ns pod
  | .log ns pod container tail => .log ns pod container tail

/-- A selector with at least one entry, in the letters of labels. -/
structure PlainSelector (selector : Labels) : Prop where
  asks : selector.entries ≠ []
  labels : ∀ e ∈ selector.entries, Label e.1 ∧ Label e.2

/-- A question about a namespace, a pod and labels of the usual alphabets. The container may be any.
    -/
def Plain : Question → Prop
  | .list ns selector => Name ns ∧ PlainSelector selector
  | .get ns pod => Name ns ∧ Name pod
  | .log ns pod _ _ => Name ns ∧ Name pod

/-- A question whose address is not too long. -/
def Short (q : Question) : Prop :=
  (Utf8.bytes (requestOf q).address).length ≤ Uri.lengthLimit

instance (q : Question) : Decidable (Short q) := inferInstanceAs (Decidable (_ ≤ _))

theorem PlainSelector.parted {selector : Labels} (plain : PlainSelector selector) :
    ∀ e ∈ selector.entries, Selector.Parted e := fun e mem =>
  have labels := plain.labels e mem
  ⟨labels.1.not_mem (by decide), labels.1.not_mem (by decide), labels.2.not_mem (by decide)⟩

theorem Plain.names {q : Question} (plain : Plain q) : ∀ name ∈ (requestOf q).names, Name name := by
  cases q with
  | list ns selector =>
    obtain ⟨own, _⟩ := plain
    simpa [requestOf, Request.names] using own
  | get ns pod | log ns pod _ _ =>
    obtain ⟨own, name⟩ := plain
    simpa [requestOf, Request.names] using ⟨own, name⟩

/-! ## Answers

For each kind of question, the request is sent (`Request.target_of_names`), the server's answer is
known (`Server.send_…`), and `Mirrors` says what it is read as. Behind it the states mirror each
other again. -/

namespace Mirrors

variable {m : Memory} {s : Server}

theorem noted (mirror : Mirrors m s) (r : Request) : Mirrors m (s.noted r) :=
  ⟨mirror.quiet, mirror.closes, mirror.pods, mirror.records, mirror.once, mirror.opened,
    mirror.closed⟩

theorem list (mirror : Mirrors m s) {ns : String} {selector : Labels}
    (plain : Plain (.list ns selector)) (short : Short (.list ns selector)) :
    (s.listPods ns selector).1 = .ok (m.select ns selector) ∧
      Mirrors m (s.listPods ns selector).2.2 := by
  have sent := Request.target_of_names plain.names short
  have asked := Server.send_list mirror.quiet plain.1.piece sent
  obtain ⟨fits, read⟩ := listing_body (mirror.select ns plain.2.asks plain.2.parted)
  unfold Server.listPods
  simp only [asked, fits, items_listing, read]
  exact ⟨trivial, mirror.noted _⟩

theorem get (mirror : Mirrors m s) {ns pod : String} (plain : Plain (.get ns pod))
    (short : Short (.get ns pod)) :
    (s.getPod ns pod).1 = m.get ns pod ∧ Mirrors m (s.getPod ns pod).2 := by
  have sent := Request.target_of_names plain.names short
  have asked := Server.send_get mirror.quiet plain.1.piece plain.2.piece sent
  -- the pod is found on both sides or on neither
  have found := mirror.find ns pod
  unfold Server.getPod Memory.get
  generalize m.find? ns pod = here, s.find? ns pod = there at found asked
  cases found with
  | none =>
    simp only [asked, forPod_podNotFound]
    exact ⟨trivial, mirror.noted _⟩
  | some renders =>
    simp only [asked, renders.body]
    exact ⟨trivial, mirror.noted _⟩

theorem log (mirror : Mirrors m s) {ns pod container : String} {tail : Option Int}
    (plain : Plain (.log ns pod container tail)) (short : Short (.log ns pod container tail)) :
    (s.openLog ns pod container tail).1 = (m.log ns pod container tail).1 ∧
      Mirrors (m.log ns pod container tail).2 (s.openLog ns pod container tail).2 := by
  have sent := Request.target_of_names plain.names short
  have asked := Server.send_log mirror.quiet plain.1.piece plain.2.piece sent
  have found := mirror.find ns pod
  have lines : (Feed.ofArrivals (s.arrivals pod container)).map Server.named =
      (m.lines pod container).map .line ++ m.ending.steps := by
    -- the memory ends its logs as a server does, with nothing behind the lines
    rw [mirror.lines, mirror.closes, List.map_map]
    exact (List.append_nil _).symm
  unfold Server.openLog Memory.log Memory.get
  generalize m.find? ns pod = here, s.find? ns pod = there at found asked
  cases found with
  | none =>
    simp only [asked, forPod_podNotFound]
    exact ⟨trivial, mirror.noted _⟩
  | some renders =>
    simp only [asked, Body.arrivals, lines]
    exact ⟨trivial, mirror.quiet, mirror.closes, mirror.pods, mirror.records, mirror.once,
      congrArg (· + 1) mirror.opened, mirror.closed⟩

end Mirrors

/-- **The simulation**: a memory and a server that mirrors it answer plain and short questions
    alike. -/
theorem alike :
    Lookup.Alike Memory.cluster Server.cluster (fun q => Plain q ∧ Short q) Mirrors where
  list m s mirror ns selector may := by
    simp only [Server.cluster, Memory.cluster]
    exact mirror.list may.1 may.2
  get m s mirror ns pod may := by
    simp only [Server.cluster, Memory.cluster]
    exact mirror.get may.1 may.2
  log m s mirror ns pod container tail may := by
    simp only [Server.cluster, Memory.cluster]
    exact mirror.log may.1 may.2

/-! ## Targets

That a plain target asks plain questions is not a matter of the target alone: the pod of a workload
is named by the cluster, in its list. `ListsNamed` is what is needed of these answers, and
`Lookup.Asks` carries it through the look-up. -/

/-- A target with names of the usual alphabets. The container may be any. -/
structure PlainTarget (label : String) (t : Target) : Prop where
  ns : Name t.ns
  pod : t.kind = .pod → Name (t.pod.getD t.identifier)
  capp : t.kind = .capp → Label label ∧ Label t.identifier

/-- The pods of a list have names of the usual alphabet. -/
def ListsNamed : Exchange → Prop
  | .listed _ _ (.ok pods) => ∀ p ∈ pods, Name p.name
  | _ => True

section

open Lookup

variable {label : String} (tail : Option Int) {t : Target}

theorem plain_ofCapp {name : String} (key : Label label) (value : Label name) :
    PlainSelector (Selector.ofCapp label name) where
  asks := List.cons_ne_nil _ _
  labels := List.forall_mem_singleton.mpr ⟨key, value⟩

theorem asks_openLog {ns : String} {e : Endpoint} (own : Name ns) (named : Name e.pod) :
    (openLog tail ns e).Asks ListsNamed Plain fun _ => True := by
  -- both questions are about the same pod, so one name answers for both
  refine ⟨⟨own, named⟩, fun answer _ => ?_⟩
  cases answer with
  | error cause => trivial
  | ok p =>
    dsimp only
    split
    · refine ⟨⟨own, named⟩, fun answer _ => ?_⟩
      cases answer with
      | error cause => trivial
      | ok source => trivial
    · trivial

theorem asks_resolvePod (own : Name t.ns) (named : Name (t.pod.getD t.identifier)) :
    (resolvePod t).Asks ListsNamed Plain fun e => Name e.pod := by
  unfold resolvePod
  dsimp only
  split
  · exact named
  · refine ⟨⟨own, named⟩, fun answer _ => ?_⟩
    cases answer with
    | error cause => trivial
    | ok p =>
      dsimp only [onlyContainer]
      split
      · exact named
      · trivial

theorem asks_choose {candidates : List Pod} (named : ∀ p ∈ candidates, Name p.name) :
    (choose t candidates).Asks ListsNamed Plain fun p => Name p.name := by
  unfold choose
  split
  · trivial
  · exact named _ List.mem_cons_self
  · split
    next found => exact named _ (List.mem_of_find?_eq_some found)
    next => trivial

theorem asks_resolveCapp (own : Name t.ns) (key : Label label) (value : Label t.identifier) :
    (resolveCapp label t).Asks ListsNamed Plain fun e => Name e.pod := by
  refine ⟨⟨own, plain_ofCapp key value⟩, fun answer told => ?_⟩
  cases answer with
  | error cause => trivial
  | ok candidates => exact (asks_choose told).bind fun p named => named

/-- Opening the log of a plain target asks plain questions only. -/
theorem asks_openTarget (plain : PlainTarget label t) :
    (openTarget label tail t).Asks ListsNamed Plain fun _ => True := by
  have resolved : (resolve label t).Asks ListsNamed Plain fun e => Name e.pod := by
    refine Asks.bind ?_ fun e named => show Name e.pod from named
    cases kind : t.kind with
    | pod => exact asks_resolvePod plain.ns (plain.pod kind)
    | capp => exact asks_resolveCapp plain.ns (plain.capp kind).1 (plain.capp kind).2
  exact resolved.bind fun e named => asks_openLog tail plain.ns named

end

/-- A memory lists pods with plain names if all its pods have such names, and no question changes
    its pods. -/
theorem answers_memory :
    Lookup.Answers Memory.cluster ListsNamed fun m => ∀ p ∈ m.pods, Name p.2.name where
  list m named ns selector := by
    refine ⟨fun p mem => ?_, named⟩
    obtain ⟨⟨ns', p⟩, picked, rfl⟩ := List.mem_map.mp mem
    exact named _ (List.mem_of_mem_filter picked)
  get m named ns pod := ⟨trivial, named⟩
  log m named ns pod container tail := by
    refine ⟨trivial, ?_⟩
    -- a log that is opened is counted, and no pod is changed
    have same : (m.log ns pod container tail).2.pods = m.pods := by
      unfold Memory.log
      split <;> rfl
    exact fun p mem => named p (same ▸ mem)

/-! ## Open logs -/

/-- **A memory and a server that mirrors it open the same logs.** Let the target be plain, with any
    container, and let no question on the way have an address that is too long. Then opening the
    target's log fails with both for the same reason, or gives a log of the same lines with both.
    Both have opened as many logs then, and the server still mirrors the memory. Lists of pods by a
    plain selector are the same, in the same order. -/
theorem opens_alike (label : String) (tail : Option Int) (t : Target) (m : Memory) (s : Server)
    (mirror : Mirrors m s) (named : ∀ p ∈ m.pods, Name p.2.name) (plain : PlainTarget label t)
    (short : ∀ call ∈ (Lookup.openTarget label tail t).transcript Memory.cluster m,
      Short call.question) :
    ((Lookup.openTarget label tail t).run Server.cluster s).1 =
        ((Lookup.openTarget label tail t).run Memory.cluster m).1 ∧
      ((Lookup.openTarget label tail t).run Server.cluster s).2.2.opened =
        ((Lookup.openTarget label tail t).run Memory.cluster m).2.2.opened ∧
      Mirrors ((Lookup.openTarget label tail t).run Memory.cluster m).2.2
        ((Lookup.openTarget label tail t).run Server.cluster s).2.2 ∧
      ∀ ns selector, Name ns → PlainSelector selector → Short (.list ns selector) →
        (s.listPods ns selector).1 = .ok (m.select ns selector) := by
  -- it is enough to know the questions that the memory is asked: the server is asked the same
  have asked := (asks_openTarget tail plain).transcript answers_memory named
  obtain ⟨same, after⟩ := Lookup.run_alike alike (Lookup.openTarget label tail t) mirror
    fun call mem => ⟨asked call mem, short call mem⟩
  exact ⟨same, after.opened, after, fun ns selector own asks fits =>
    (mirror.list ⟨own, asks⟩ fits).1⟩

/-- A memory of one pod of a workload, with a log of two lines. -/
def shop : Memory where
  pods := [("ns", Memory.plainPod "shop-1" (Labels.single "app" "shop") ["shop", "proxy"])]
  records := [⟨"shop-1", "shop", ["open", "closed"]⟩]
  ending := .close
  opened := 0
  closed := 0
  tails := []

theorem mirrors_shop : Mirrors shop (serving shop) := by
  refine mirrors_serving rfl ?_ ?_ (List.pairwise_singleton _ _)
  · simp [shop, Memory.plainPod]
  · simp only [shop, List.mem_cons, List.not_mem_nil, or_false, forall_eq, forall_eq_or_imp]
    exact ⟨Feed.Clear.mk (by decide) (by decide), Feed.Clear.mk (by decide) (by decide)⟩

theorem opens_alike_shop :
    Mirrors shop (serving shop) ∧ (∀ p ∈ shop.pods, Name p.2.name) ∧
      PlainTarget "app" (.ofCapp "ns" "shop" none none) ∧
      (∀ call ∈ (Lookup.openTarget "app" none (.ofCapp "ns" "shop" none none)).transcript
        Memory.cluster shop, Short call.question) ∧
      ((Lookup.openTarget "app" none (.ofCapp "ns" "shop" none none)).run Server.cluster
        (serving shop)).1 = .ok ⟨[.line "open", .line "closed"], true⟩ := by
  have named : ∀ p ∈ shop.pods, Name p.2.name := by
    simp only [shop, List.mem_singleton, forall_eq]
    exact by decide
  have plain : PlainTarget "app" (.ofCapp "ns" "shop" none none) :=
    PlainTarget.mk (by decide) (fun other => nomatch other) fun _ =>
      ⟨by decide, by decide⟩
  have short : ∀ call ∈ (Lookup.openTarget "app" none (.ofCapp "ns" "shop" none none)).transcript
      Memory.cluster shop, Short call.question := by
    decide
  have alike := opens_alike "app" none (.ofCapp "ns" "shop" none none) shop (serving shop)
    mirrors_shop named plain short
  exact ⟨mirrors_shop, named, plain, short, alike.1.trans rfl⟩

/-! ## Beyond the limit -/

/-- If the address of a log is too long, a memory opens the log and no server does. -/
theorem parts_beyond_limit {m : Memory} {s : Server} (mirror : Mirrors m s) (label : String)
    (tail : Option Int) {ns pod container : String} {p : Pod} (own : Name ns) (named : Name pod)
    (found : m.find? ns pod = some p) (has : container ∈ p.containers) (short : Short (.get ns pod))
    (long : ¬ Short (.log ns pod container tail)) :
    ((Lookup.openTarget label tail ⟨ns, .pod, pod, none, some container⟩).run Memory.cluster m).1 =
        .ok ⟨(m.lines pod container).map .line, true⟩ ∧
      ((Lookup.openTarget label tail ⟨ns, .pod, pod, none, some container⟩).run
        Server.cluster s).1 = .error (.openFailed (.unsendable (.badAddress .tooLong))) := by
  have pieces : ∀ name ∈ (Request.log ns pod container tail).names, Name name :=
    Plain.names (q := .log ns pod container tail) ⟨own, named⟩
  have held : m.get ns pod = .ok p := by
    rw [Memory.get, found]
  constructor
  · have opened : (Memory.cluster.log m ns pod container tail).1 =
        .ok ⟨(m.lines pod container).map .line, true⟩ := by
      show (m.log ns pod container tail).1 = _
      simp [Memory.log, held, mirror.closes, Memory.Ending.steps]
    rw [Lookup.run_openTarget_named Memory.cluster m label tail held has]
    show (Memory.cluster.log m ns pod container tail).1.mapError _ = _
    rw [opened]
    rfl
  · -- the server has the pod with its container too; only the request for its log is not sent
    have got : (Server.cluster.get s ns pod).1 = .ok p := by
      show (s.getPod ns pod).1 = _
      rw [(mirror.get ⟨own, named⟩ short).1, held]
    have refused : ∀ s : Server, (Server.cluster.log s ns pod container tail).1 =
        .error (.unsendable (.badAddress .tooLong)) := by
      intro s
      show (s.openLog ns pod container tail).1 = _
      unfold Server.openLog
      rw [Server.send_unsent (Request.target_too_long pieces (Nat.lt_of_not_le long))]
      rfl
    rw [Lookup.run_openTarget_named Server.cluster s label tail got has, refused]
    rfl

/-- A name of `n` slashes. -/
def slashes (n : Nat) : String :=
  String.ofList (List.replicate n '/')

/-- A slash takes three bytes in a query. -/
theorem length_slashes (n : Nat) : (Utf8.bytes (Form.encodeText (slashes n))).length = 3 * n := by
  rw [Form.bytes_encodeText, slashes, Utf8.bytes_ofList]
  induction n with
  | zero => rfl
  | succ n ih =>
    have slash : Utf8.encode (List.replicate (n + 1) '/') =
        0x2F :: Utf8.encode (List.replicate n '/') := rfl
    rw [slash, Form.encode, List.flatMap_cons, ← Form.encode, List.length_append, ih]
    show 3 + 3 * n = 3 * (n + 1)
    omega

theorem slashes_long {n : Nat} (many : 21845 ≤ n) (ns pod : String) (tail : Option Int) :
    ¬ Short (.log ns pod (slashes n) tail) := by
  have limit : Uri.lengthLimit = 65534 := rfl
  have escaped := length_slashes n
  simp only [Short, requestOf, Request.address, Utf8.bytes_append, List.length_append, escaped, limit]
  omega

/-- A memory of one pod of one container. -/
def alone (container : String) : Memory where
  pods := [("ns", Memory.plainPod "web" Labels.empty [container])]
  records := []
  ending := .close
  opened := 0
  closed := 0
  tails := []

theorem mirrors_alone (container : String) : Mirrors (alone container) (serving (alone container)) := by
  refine mirrors_serving rfl ?_ (fun _ none => absurd none List.not_mem_nil) List.Pairwise.nil
  simp [alone, Memory.plainPod]

/-- No selector at all selects no pod of a server: its text is empty, and matched by nothing. -/
theorem select_nothing (container : String) :
    ((serving (alone container)).listPods "ns" Labels.empty).1 = .ok [] ∧
      (alone container).select "ns" Labels.empty =
        [Memory.plainPod "web" Labels.empty [container]] := by
  have own : Name "ns" := by decide
  have sent : (Request.list "ns" "").target =
      .ok ⟨(Request.list "ns" "").path, (Request.list "ns" "").query?⟩ :=
    Request.target_of_names (by simpa [Request.names] using own) (by decide)
  have asked := Server.send_list (mirrors_alone container).quiet own.piece sent
  have text : Selector.text Labels.empty = "" := rfl
  have none : (serving (alone container)).select "ns" "" = [] := rfl
  obtain ⟨fits, read⟩ := listing_body List.Forall₂.nil
  refine ⟨?_, rfl⟩
  unfold Server.listPods
  simp only [text, asked, none, fits, items_listing, read]

/-- The two clusters do not agree everywhere: a container's name may be too long for an address, and
a selector may ask for nothing. -/
theorem clusters_part :
    Mirrors (alone (slashes 21845)) (serving (alone (slashes 21845))) ∧
      (∀ p ∈ (alone (slashes 21845)).pods, Name p.2.name) ∧
      PlainTarget "app" ⟨"ns", .pod, "web", none, some (slashes 21845)⟩ ∧
      ((Lookup.openTarget "app" none ⟨"ns", .pod, "web", none, some (slashes 21845)⟩).run
        Memory.cluster (alone (slashes 21845))).1 =
          .ok ⟨((alone (slashes 21845)).lines "web" (slashes 21845)).map .line, true⟩ ∧
      ((Lookup.openTarget "app" none ⟨"ns", .pod, "web", none, some (slashes 21845)⟩).run
        Server.cluster (serving (alone (slashes 21845)))).1 =
          .error (.openFailed (.unsendable (.badAddress .tooLong))) ∧
      ((serving (alone (slashes 21845))).listPods "ns" Labels.empty).1 ≠
        .ok ((alone (slashes 21845)).select "ns" Labels.empty) := by
  have own : Name "ns" := by decide
  have named : Name "web" := by decide
  generalize size : slashes 21845 = container
  have long : ¬ Short (.log "ns" "web" container none) :=
    size ▸ slashes_long (Nat.le_refl _) "ns" "web" none
  have mirror := mirrors_alone container
  obtain ⟨kept, refused⟩ := parts_beyond_limit mirror "app" none own named rfl
    (List.mem_singleton_self container) (by decide) long
  obtain ⟨none, all⟩ := select_nothing container
  refine ⟨mirror, ?_, PlainTarget.mk own (fun _ => named) (fun other => nomatch other), kept, refused,
    ?_⟩
  · simpa [alone, Memory.plainPod] using named
  · rw [none, all]
    exact fun same => nomatch same

end Api

end PodTail
