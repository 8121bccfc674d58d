import PodTail.Service.World

/-!
# What a request is answered

Three facts about `World.request` that the proofs about single requests share (the gate, the listing
of restarts, and `Rests.request`).

* `handle_route`: `Handler.handle` serves the route that the request leads to, and leaves the body
  out for a `HEAD` (`shown`).
* `state_handle`: it asks the cluster one question at most, a `get` or a `list`.
* `answer_request`: what the client gets is the verdict's response. That the world waits for the
  answer's delay and settles, and that an accepted request begins a session, makes no difference to
  it.
-/

set_option autoImplicit false

namespace PodTail

namespace Handler

variable {σ : Type} {r : Request} {route : Route}

/-- The response to a request, without its body if the method is `HEAD`. -/
def shown (r : Request) (response : Response) : Response :=
  if r.method = "HEAD" then response.headOnly else response

/-- `handle` on a request with a route, as `serve` on that route. -/
theorem handle_route (settings : Settings) (present : Instant) (c : Cluster σ) (s : σ)
    (leads : Route.of r = .ok route) :
    handle settings present c s r =
      match serve settings present c s r route with
      | (.answer response, events, s) => (.answer (shown r response), events, s)
      | other => other := by
  unfold handle
  rw [leads]
  rfl

/-- The response of a verdict. `breakOff` has none. -/
def Verdict.response? : Verdict → Option Response
  | .answer response => some response
  | .accept response _ => some response
  | .breakOff => none

/-- The state of the cluster behind `handle`: unchanged, or that behind one `get` or one `list`. -/
theorem state_handle (settings : Settings) (present : Instant) (c : Cluster σ) (s : σ) (r : Request) :
    let after := (handle settings present c s r).2.2
    after = s ∨ (∃ ns pod, after = (c.get s ns pod).2) ∨
      ∃ ns selector, after = (c.list s ns selector).2.2 := by
  -- by cases on the route; `handle` only adds the requests that lead to none
  have served : ∀ route,
      let after := (serve settings present c s r route).2.2
      after = s ∨ (∃ ns pod, after = (c.get s ns pod).2) ∨
        ∃ ns selector, after = (c.list s ns selector).2.2 := by
    intro route
    cases route with
    | health | podLogs | cappLogs => exact Or.inl rfl
    | containers ns pod =>
      refine Or.inr (Or.inl ⟨ns, pod, ?_⟩)
      simp only [serve]
      split <;> simp_all
    | pods ns capp =>
      refine Or.inr (Or.inr ⟨ns, Selector.ofCapp settings.cappLabel capp, ?_⟩)
      simp only [serve]
      split <;> simp_all
  intro after
  unfold after
  cases leads : Route.of r with
  | error fault =>
    simp only [handle, leads, true_or]
  | ok route =>
    have same := served route
    rw [handle_route settings present c s leads]
    split <;> simp_all

end Handler

namespace World

variable {σ : Type}

/-- The response of `World.request` is that of the verdict on the request. -/
theorem answer_request (w : World σ) (name : Option String) (r : Request) :
    (w.request name r).1 =
      (Handler.handle w.service.settings w.present w.cluster w.state r).1.response? := by
  unfold request
  generalize Handler.handle w.service.settings w.present w.cluster w.state r = handled
  obtain ⟨verdict, events, state⟩ := handled
  cases verdict <;> rfl

end World

end PodTail
