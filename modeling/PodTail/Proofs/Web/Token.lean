import PodTail.Proofs.Web.Header
import PodTail.Service.Handler

/-!
# Which token a request carries

`Token.of?` looks for a token in the header that is set for it, and otherwise in the `Authorization`
header. The forms in which a header gives a token are relations here: `Listed`, `Borne` and
`Unlabelled`, with `Wanting` for a header that gives none. For each of the two headers there is a
lemma that turns the function into its forms (`ofHeader?_eq_some`, `ofAuthorization?_eq_some`), and
`carried_token` puts them together: a request carries a token exactly if one of the forms fits, and
`Handler.judge` refuses it for want of a token exactly if none does.

Two of the forms are those that clients are told of (`Documented`). The third is that an
`Authorization` header which does not begin with `Bearer ` is a token as a whole (`Unlabelled`). So
a password of another scheme is taken for a token, and so is the word `Bearer` alone, whose blank
was trimmed (`other_scheme_passes`).
-/

set_option autoImplicit false

namespace PodTail

namespace Token

/-! ## The forms of a token -/

/-- The first value under a name is `v`, and is a text. -/
def Shown (h : Headers) (name : String) (v : List UInt8) : Prop :=
  h.first? name = some v ∧ ∀ b ∈ v, Header.isVisible b = true

/-- The header lists `t` first. -/
def Listed (h : Headers) (name : String) (t : List UInt8) : Prop :=
  ∃ v value, Shown h name v ∧ (Cut.every 0x2C v).head? = some value ∧ Header.Trimmed value t

/-- The `Authorization` header bears `t`. -/
def Borne (h : Headers) (t : List UInt8) : Prop :=
  ∃ credential, Shown h "Authorization" (bearer ++ credential) ∧ Header.Trimmed credential t

/-- The `Authorization` header is `t` as a whole, since it does not say that it bears anything. -/
def Unlabelled (h : Headers) (t : List UInt8) : Prop :=
  ∃ v, Shown h "Authorization" v ∧ ¬ bearer <+: v ∧ Header.Trimmed v t

/-- The header set for the token has none to give: it is missing, or is no text, or what it lists
    first is blank. -/
def Wanting (h : Headers) (name : String) : Prop :=
  ∀ v value, Shown h name v → (Cut.every 0x2C v).head? = some value →
    ∀ b ∈ value, Header.isBlank b = true

/-- The forms that clients are told of. -/
def Documented (h : Headers) (name : String) (t : List UInt8) : Prop :=
  Listed h name t ∨ Wanting h name ∧ Borne h t

variable {h : Headers} {name : String} {bs t v : List UInt8}

/-! ## What the two headers give

The functions are chains of `Option.bind`, and each link has its own lemma: the value is visible
(`visible?_eq_some`) and what is left after trimming is not empty (`trimmed?_eq_some`). -/

theorem trimmed?_eq_some : trimmed? bs = some t ↔ t ≠ [] ∧ Header.Trimmed bs t := by
  rw [← Header.trim_eq_iff, trimmed?]
  by_cases blank : Header.trim bs = []
  · rw [if_pos blank]
    constructor
    · intro given
      cases given
    · rintro ⟨nonempty, rfl⟩
      exact absurd blank nonempty
  · rw [if_neg blank, Option.some.injEq]
    constructor
    · rintro rfl
      exact ⟨blank, rfl⟩
    · exact And.right

theorem visible?_eq_some :
    Header.visible? bs = some v ↔ bs = v ∧ ∀ b ∈ bs, Header.isVisible b = true := by
  simp [Header.visible?, and_comm]

/-- The header set for the token gives `t` exactly if it lists `t` first. -/
theorem ofHeader?_eq_some : ofHeader? h name = some t ↔ t ≠ [] ∧ Listed h name t := by
  simp only [ofHeader?, Option.bind_eq_some_iff, visible?_eq_some, trimmed?_eq_some]
  constructor
  · rintro ⟨v, at', _, ⟨rfl, visible⟩, nonempty, trimmed⟩
    exact ⟨nonempty, v, _, ⟨at', visible⟩, Cut.head?_every 0x2C v, trimmed⟩
  · rintro ⟨nonempty, v, value, ⟨at', visible⟩, first, trimmed⟩
    rw [Cut.head?_every, Option.some.injEq] at first
    exact ⟨v, at', v, ⟨rfl, visible⟩, nonempty, first ▸ trimmed⟩

theorem ofHeader?_eq_none : ofHeader? h name = none ↔ Wanting h name := by
  simp only [Option.eq_none_iff_forall_ne_some, ne_eq, ofHeader?_eq_some, not_and, not_imp_not]
  constructor
  · -- were anything left of the first value, it would be a token
    intro empty v value shown first
    have blank : Header.trim value = [] := empty _ ⟨v, value, shown, first, Header.trimmed_trim value⟩
    exact Header.trimmed_nil_iff.mp (Header.trim_eq_iff.mp blank)
  · rintro wanting t ⟨v, value, shown, first, trimmed⟩
    have blank : Header.Trimmed value [] := Header.trimmed_nil_iff.mpr (wanting v value shown first)
    exact (Header.trim_of_trimmed trimmed).symm.trans (Header.trim_of_trimmed blank)

@[simp]
theorem withoutLead_append (lead bs : List UInt8) : withoutLead lead (lead ++ bs) = bs := by
  rw [withoutLead, if_pos (by simp), List.drop_left]

theorem withoutLead_of_not {lead : List UInt8} (other : ¬ lead <+: bs) :
    withoutLead lead bs = bs :=
  if_neg (by simpa using other)

/-- The `Authorization` header gives `t` with the word `Bearer ` before it or without any such word.
    -/
theorem ofAuthorization?_eq_some :
    ofAuthorization? h = some t ↔ t ≠ [] ∧ (Borne h t ∨ Unlabelled h t) := by
  simp only [ofAuthorization?, Option.bind_eq_some_iff, visible?_eq_some, trimmed?_eq_some]
  constructor
  · rintro ⟨v, at', _, ⟨rfl, visible⟩, nonempty, trimmed⟩
    refine ⟨nonempty, ?_⟩
    by_cases lead : bearer <+: v
    · -- the word is taken away, and the rest is the credential
      obtain ⟨credential, rfl⟩ := lead
      rw [withoutLead_append] at trimmed
      exact Or.inl ⟨credential, ⟨at', visible⟩, trimmed⟩
    · rw [withoutLead_of_not lead] at trimmed
      exact Or.inr ⟨v, ⟨at', visible⟩, lead, trimmed⟩
  · rintro ⟨nonempty, borne | unlabelled⟩
    · obtain ⟨credential, ⟨at', visible⟩, trimmed⟩ := borne
      exact ⟨_, at', _, ⟨rfl, visible⟩, nonempty, by rwa [withoutLead_append]⟩
    · obtain ⟨v, ⟨at', visible⟩, other, trimmed⟩ := unlabelled
      exact ⟨v, at', v, ⟨rfl, visible⟩, nonempty, by rwa [withoutLead_of_not other]⟩

/-- A token has no blanks around it, wherever it comes from. -/
theorem Listed.unpadded (listed : Listed h name t) : Header.Unpadded t := by
  obtain ⟨_, _, _, _, trimmed⟩ := listed
  exact trimmed.unpadded

theorem Borne.unpadded (borne : Borne h t) : Header.Unpadded t := by
  obtain ⟨_, _, trimmed⟩ := borne
  exact trimmed.unpadded

theorem Unlabelled.unpadded (unlabelled : Unlabelled h t) : Header.Unpadded t := by
  obtain ⟨_, _, _, trimmed⟩ := unlabelled
  exact trimmed.unpadded

/-! ## The token of a request -/

theorem of?_eq_some :
    of? h name = some t ↔ t ≠ [] ∧ (Documented h name t ∨ Wanting h name ∧ Unlabelled h t) := by
  rw [of?, Option.or_eq_some_iff, ofHeader?_eq_some, ofHeader?_eq_none, ofAuthorization?_eq_some,
    Documented, or_assoc, ← and_or_left, and_left_comm, ← and_or_left]

theorem judge_missing {r : Request} {key : List UInt8} (target : Target)
    (proper : Handshake.key r.method r.headers r.upgradable = .ok key)
    (missing : of? r.headers name = none) :
    Handler.judge name r target = (.answer (Handler.refusal .noToken), [.tokenMissing target]) := by
  simp only [Handler.judge, proper, missing]

theorem judge_carried {r : Request} {key : List UInt8} (target : Target)
    (proper : Handshake.key r.method r.headers r.upgradable = .ok key)
    (carried : of? r.headers name = some t) :
    Handler.judge name r target =
      (.accept (Handler.switching key (agreed? r.headers t)) target, []) := by
  simp only [Handler.judge, proper, carried]

/-- **Which token a request carries.** A token is not empty and has no blanks around it. It is the
    first of the values in the header set for it; or, if that header is `Wanting`, what the
    `Authorization` header has behind `Bearer `, and all of that header if it does not begin so.
    Whatever fits one of these forms is the request's token. For a streaming request that is a
    proper handshake, `judge` answers 401 if it carries no token, and accepts it if it carries one.
    -/
theorem carried_token (h : Headers) (name : String) :
    (∀ t, of? h name = some t ↔ t ≠ [] ∧ Header.Unpadded t ∧
        (Documented h name t ∨ Wanting h name ∧ Unlabelled h t)) ∧
      ∀ (r : Request) (target : Target) (key : List UInt8), r.headers = h →
        Handshake.key r.method r.headers r.upgradable = .ok key →
        (of? h name = none → ∃ refused, refused.status = 401 ∧
          Handler.judge name r target = (.answer refused, [.tokenMissing target])) ∧
        ∀ t, of? h name = some t → ∃ accepted, accepted.status = 101 ∧
          Handler.judge name r target = (.accept accepted target, []) := by
  constructor
  · intro t
    rw [of?_eq_some]
    constructor
    · rintro ⟨nonempty, form⟩
      have unpadded : Header.Unpadded t := by
        rcases form with (listed | ⟨_, borne⟩) | ⟨_, unlabelled⟩
        · exact listed.unpadded
        · exact borne.unpadded
        · exact unlabelled.unpadded
      exact ⟨nonempty, unpadded, form⟩
    · rintro ⟨nonempty, _, form⟩
      exact ⟨nonempty, form⟩
  · intro r target key headers proper
    subst headers
    constructor
    · intro missing
      exact ⟨_, rfl, judge_missing target proper missing⟩
    · intro t carried
      exact ⟨_, rfl, judge_carried target proper carried⟩

/-- A handshake whose `Authorization` header is `value`. -/
def authorized (value : String) : Request where
  method := "GET"
  uri := ⟨"/v1/logs/pod/ns/web", none⟩
  headers :=
    [⟨"Connection", Utf8.bytes "Upgrade"⟩, ⟨"Upgrade", Utf8.bytes "websocket"⟩,
      ⟨"Sec-WebSocket-Version", Utf8.bytes "13"⟩,
      ⟨"Sec-WebSocket-Key", Utf8.bytes "dGhlIHNhbXBsZSBub25jZQ=="⟩,
      ⟨"Authorization", Utf8.bytes value⟩]
  upgradable := true

theorem key_authorized (value : String) :
    Handshake.key (authorized value).method (authorized value).headers (authorized value).upgradable =
      .ok (Utf8.bytes "dGhlIHNhbXBsZSBub25jZQ==") :=
  rfl

/-- `carried_token` on a bearer's token, in a form that clients are told of. -/
theorem bearer_is_accepted :
    Documented (authorized "Bearer YTpi").headers protocolHeader (Utf8.bytes "YTpi") ∧
      ∃ accepted, accepted.status = 101 ∧
        Handler.judge protocolHeader (authorized "Bearer YTpi") (.ofPod "ns" "web" none) =
          (.accept accepted (.ofPod "ns" "web" none), []) := by
  have carried : of? (authorized "Bearer YTpi").headers protocolHeader = some (Utf8.bytes "YTpi") :=
    rfl
  obtain ⟨forms, judged⟩ := carried_token (authorized "Bearer YTpi").headers protocolHeader
  refine ⟨?_, (judged _ _ _ rfl (key_authorized _)).2 _ carried⟩
  rcases ((forms _).mp carried).2.2 with documented | ⟨_, v, ⟨at', _⟩, other, _⟩
  · exact documented
  · obtain rfl : Utf8.bytes "Bearer YTpi" = v := Option.some.inj at'
    exact absurd (by decide) other

/-- Credentials of another scheme are taken for tokens, and so is the word `Bearer` with nothing
    behind it. Both are accepted, so the documented forms are not all that there are. -/
theorem other_scheme_passes :
    (∀ value ∈ ["Basic YTpi", "Bearer"],
      of? (authorized value).headers protocolHeader = some (Utf8.bytes value) ∧
      ∃ accepted, accepted.status = 101 ∧
        Handler.judge protocolHeader (authorized value) (.ofPod "ns" "web" none) =
          (.accept accepted (.ofPod "ns" "web" none), [])) ∧
      ¬ ∀ h name t, of? h name = some t ↔ t ≠ [] ∧ Header.Unpadded t ∧ Documented h name t := by
  have carried : ∀ value ∈ ["Basic YTpi", "Bearer"],
      of? (authorized value).headers protocolHeader = some (Utf8.bytes value) := by
    intro value mem
    rcases List.mem_cons.mp mem with rfl | mem
    · rfl
    · obtain rfl := List.mem_singleton.mp mem
      rfl
  constructor
  · intro value mem
    exact ⟨carried value mem, _, rfl, judge_carried _ (key_authorized value) (carried value mem)⟩
  · intro documented
    obtain ⟨_, _, form⟩ := (documented _ _ _).mp (carried "Basic YTpi" (by simp))
    rcases form with ⟨_, _, ⟨listed, _⟩, _⟩ | ⟨_, credential, ⟨borne, _⟩, _⟩
    · -- there is no header for protocols that could list it
      cases listed
    · have lead : bearer <+: Utf8.bytes "Basic YTpi" := ⟨credential, (Option.some.inj borne).symm⟩
      exact absurd lead (by decide)

end Token

end PodTail
