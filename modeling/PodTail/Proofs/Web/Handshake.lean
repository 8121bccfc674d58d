import PodTail.Proofs.Net.Form
import PodTail.Proofs.Web.Token

/-!
# Handshakes and agreed protocols

`Handshake.key` checks a request for an upgrade, header by header, and returns the key or the first
fault. It is specified by `Proper`, which lists what a handshake has: the key is returned exactly
for proper requests (`key_eq_ok`), and a fault is something that the request `Lacks`
(`lacks_of_key`).

The response to a handshake (`Handler.switching`) names the token as a protocol if the client has
offered it as one (`Token.Offers`), and otherwise names none (`Handler.protocols_switching`). The
header for the token and the header for protocols are read by two rules: the token is the first
value of the first such header, a protocol may be any value of any. If both headers are the same,
what the first rule finds the second finds too (`Listed.offers`).
-/

set_option autoImplicit false

namespace PodTail

namespace Handshake

/-! ## What a handshake shows -/

/-- The first value under a name is a word, in any case. -/
def Is (h : Headers) (name word : String) : Prop :=
  ∃ v, h.first? name = some v ∧ Header.lower v = Utf8.bytes word

/-- The first value under a name is a text that holds a word, in any case. -/
def Mentions (h : Headers) (name word : String) : Prop :=
  ∃ v, h.first? name = some v ∧ (∃ text, Utf8.read? v = some text) ∧
    Utf8.bytes word <:+: Header.lower v

/-- A request is a handshake: it has all that `Handshake.key` checks. -/
structure Proper (r : Request) : Prop where
  method : r.method = "GET"
  connection : Mentions r.headers "Connection" "upgrade"
  upgrade : Is r.headers "Upgrade" "websocket"
  key : ∃ k, r.headers.first? "Sec-WebSocket-Key" = some k
  version : Is r.headers "Sec-WebSocket-Version" "13"
  upgradable : r.upgradable = true

/-- What a fault says that a request lacks. -/
def Fault.Lacks (r : Request) : Fault → Prop
  | .methodNotGet => r.method ≠ "GET"
  | .connectionHeader => ¬ Mentions r.headers "Connection" "upgrade"
  | .upgradeHeader => ¬ Is r.headers "Upgrade" "websocket"
  | .keyMissing => r.headers.first? "Sec-WebSocket-Key" = none
  | .version => ¬ Is r.headers "Sec-WebSocket-Version" "13"
  | .notUpgradable => r.upgradable = false

variable {r : Request} {h : Headers} {name word : String}

theorem holds_iff {word bs : List UInt8} : holds word bs = true ↔ word <:+: bs := by
  induction bs with
  | nil => simp [holds]
  | cons b bs ih => rw [holds, Bool.or_eq_true, ih, List.isPrefixOf_iff_prefix, List.infix_cons_iff]

theorem equals_iff : equals h name word = true ↔ Is h name word := by
  unfold equals Is
  cases h.first? name <;> simp

theorem includes_iff : includes h name word = true ↔ Mentions h name word := by
  unfold includes Mentions
  cases h.first? name <;> simp [holds_iff, Option.isSome_iff_exists]

/-- `key` succeeds exactly on handshakes, with the value of their key header. -/
theorem key_eq_ok {k : List UInt8} :
    key r.method r.headers r.upgradable = .ok k ↔
      Proper r ∧ r.headers.first? "Sec-WebSocket-Key" = some k := by
  constructor
  · -- each check is read off the only branch of `key` that succeeds
    intro given
    unfold key at given
    have method : r.method = "GET" := by grind
    have connection : includes r.headers "Connection" "upgrade" = true := by grind
    have upgrade : equals r.headers "Upgrade" "websocket" = true := by grind
    have found : r.headers.first? "Sec-WebSocket-Key" = some k := by grind
    have version : equals r.headers "Sec-WebSocket-Version" "13" = true := by grind
    have upgradable : r.upgradable = true := by grind
    exact ⟨⟨method, includes_iff.mp connection, equals_iff.mp upgrade, ⟨k, found⟩,
      equals_iff.mp version, upgradable⟩, found⟩
  · rintro ⟨⟨method, connection, upgrade, _, version, upgradable⟩, found⟩
    simp [key, method, includes_iff.mpr connection, equals_iff.mpr upgrade, found,
      equals_iff.mpr version, upgradable]

/-- The fault that is reported is a true one. -/
theorem lacks_of_key {fault : Fault} (faulty : key r.method r.headers r.upgradable = .error fault) :
    fault.Lacks r := by
  unfold key at faulty
  cases fault with
  | methodNotGet | keyMissing | notUpgradable =>
    simp only [Fault.Lacks]
    grind
  | connectionHeader =>
    intro mentions
    have includes := includes_iff.mpr mentions
    grind
  | upgradeHeader =>
    intro is
    have equals := equals_iff.mpr is
    grind
  | version =>
    intro is
    have equals := equals_iff.mpr is
    grind

/-- A request that is no handshake has a fault. -/
theorem fault_of_improper (improper : ¬ Proper r) :
    ∃ fault, key r.method r.headers r.upgradable = .error fault ∧ fault.Lacks r := by
  cases given : key r.method r.headers r.upgradable with
  | ok k => exact absurd (key_eq_ok.mp given).1 improper
  | error fault => exact ⟨fault, rfl, lacks_of_key given⟩

theorem Proper.given (proper : Proper r) :
    ∃ k, Handshake.key r.method r.headers r.upgradable = .ok k := by
  obtain ⟨k, found⟩ := proper.key
  exact ⟨k, key_eq_ok.mpr ⟨proper, found⟩⟩

end Handshake

/-! ## Protocols -/

namespace Header

variable {bs t : List UInt8}

theorem Trimmed.mem (trimmed : Trimmed bs t) {b : UInt8} (mem : b ∈ t) : b ∈ bs := by
  obtain ⟨front, back, rfl, _, _⟩ := trimmed.padded
  simp [mem]

theorem sameName_congr {a b : String} (same : sameName a b = true) (c : String) :
    sameName c a = sameName c b := by
  have lower := of_decide_eq_true same
  simp only [sameName, lower]

theorem toNat_of_visible : ∀ b : UInt8, isVisible b = true → b.toNat < 0x80 :=
  forall_byte (by decide +kernel)

end Header

namespace Token

variable {h : Headers} {name : String} {t : List UInt8}

/-- The client offers `t` as a protocol: it is one of the values, with commas between them, of a
    header for protocols. -/
def Offers (h : Headers) (t : List UInt8) : Prop :=
  ∃ e ∈ h, Header.sameName e.name protocolHeader = true ∧
    ∃ value ∈ Cut.every 0x2C e.value, Header.Trimmed value t

theorem mem_offered : t ∈ offered h ↔ Offers h t := by
  simp only [offered, Headers.all, Header.parts, List.mem_flatMap, List.mem_map, List.mem_filter,
    Header.trim_eq_iff, Offers]
  constructor
  · rintro ⟨v, ⟨e, ⟨mem, named⟩, rfl⟩, value, part, trimmed⟩
    exact ⟨e, mem, named, value, part, trimmed⟩
  · rintro ⟨e, mem, named, value, part, trimmed⟩
    exact ⟨e.value, ⟨e, ⟨mem, named⟩, rfl⟩, value, part, trimmed⟩

/-- A token listed in a header for protocols is one of the protocols offered. -/
theorem Listed.offers (listed : Listed h name t)
    (same : Header.sameName name protocolHeader = true) : Offers h t := by
  obtain ⟨v, value, ⟨at', _⟩, first, trimmed⟩ := listed
  obtain ⟨e, found, rfl⟩ := Option.map_eq_some_iff.mp at'
  have named := List.find?_some found
  rw [Header.sameName_congr same] at named
  exact ⟨e, List.mem_of_find?_eq_some found, named, value, List.mem_of_head? first, trimmed⟩

/-- A token is ASCII, since each of its bytes is one of a visible header value. It survives the way
    through a text in the response. -/
theorem ascii (carried : of? h name = some t) : ∀ b ∈ t, b.toNat < 0x80 := by
  -- wherever the token comes from, its bytes are among those of a value that is visible
  have shown : ∃ n v, Shown h n v ∧ ∀ b ∈ t, b ∈ v := by
    rcases (of?_eq_some.mp carried).2 with (listed | ⟨_, borne⟩) | ⟨_, unlabelled⟩
    · obtain ⟨v, value, shown, first, trimmed⟩ := listed
      rw [Cut.head?_every, Option.some.injEq] at first
      subst first
      exact ⟨_, v, shown, fun b mem => (List.takeWhile_sublist _).subset (trimmed.mem mem)⟩
    · obtain ⟨credential, shown, trimmed⟩ := borne
      exact ⟨_, _, shown, fun b mem => List.mem_append_right _ (trimmed.mem mem)⟩
    · obtain ⟨v, shown, _, trimmed⟩ := unlabelled
      exact ⟨_, v, shown, fun b mem => trimmed.mem mem⟩
  obtain ⟨n, v, ⟨_, visible⟩, within⟩ := shown
  exact fun b mem => Header.toNat_of_visible b (visible b (within b mem))

end Token

namespace Response

/-- The protocols that a response names. -/
def protocols (r : Response) : List (List UInt8) :=
  (r.headers.filter fun e => e.1 = "sec-websocket-protocol").map fun e => Utf8.bytes e.2

end Response

namespace Handler

/-- The response to a handshake names the token if it is offered as a protocol, and nothing
    otherwise. -/
theorem protocols_switching {h : Headers} {name : String} {token : List UInt8}
    (carried : Token.of? h name = some token) (key : List UInt8) :
    (Token.Offers h token → (switching key (Token.agreed? h token)).protocols = [token]) ∧
      (¬ Token.Offers h token → (switching key (Token.agreed? h token)).protocols = []) := by
  rw [← Token.mem_offered, Token.agreed?]
  constructor
  · intro offered
    rw [if_pos offered]
    simp [Response.protocols, switching, Utf8.bytes_repair (Token.ascii carried)]
  · intro other
    rw [if_neg other]
    simp [Response.protocols, switching]

end Handler

end PodTail
