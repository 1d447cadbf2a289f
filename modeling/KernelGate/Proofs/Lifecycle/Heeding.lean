import KernelGate.Proofs.Lifecycle.Looping
import KernelGate.Proofs.Lifecycle.Stopping

/-!
# Which requests to stop are heeded

Requests come at any time, before the gateway serves as well as after it has been asked to stop. A
serving gateway heeds the first of them, except that an interrupt is not heeded once another one has
come, be it at a time when it could not stop anything.

Main statements: `inOrder_after` is what holds of every history, `heeded_iff` says which requests
are heeded, and `interrupt_unheeded` that a serving gateway may go on when it is interrupted,
although it has not been asked to stop.
-/

namespace KernelGate

namespace Coordinator

/-- What may happen to a gateway, in whatever order. -/
inductive Event where
  | prompting (p : Prompting)
  /-- The callbacks that wait are run. -/
  | drain
  /-- The event loop runs. -/
  | runLoop
  | start
  | serve
  | finish
  deriving DecidableEq

def Event.act : Event → Coordinator → Coordinator
  | prompting p, c => p.act c
  | drain, c => c.drain
  | runLoop, c => c.runLoop
  | start, c => c.move .uninitialized .starting
  | serve, c => c.move .starting .serving
  | finish, c => c.finish

/-- What a gateway comes to. -/
def after (events : List Event) : Coordinator := events.foldl (fun c e => e.act c) initial

theorem after_concat (events : List Event) (e : Event) :
    after (events ++ [e]) = e.act (after events) := by
  unfold after
  rw [List.foldl_append]
  rfl

/-- A request is heeded: the gateway is asked to stop, and the callback that stops it waits. -/
structure Heeded (c c' : Coordinator) : Prop where
  phase : c'.phase = .stopRequested
  queue : c'.loop.queue = c.loop.queue ++ [stopCallback]

/-- But for whether an interrupt has come, nothing changes. -/
structure Unheeded (c c' : Coordinator) : Prop where
  phase : c'.phase = c.phase
  loop : c'.loop = c.loop

variable {c : Coordinator} {events : List Event}

theorem not_heeded_of_unheeded {c' : Coordinator} (h : c.Unheeded c') : ¬ c.Heeded c' := by
  intro hheeded
  have hlength := congrArg List.length hheeded.queue
  rw [h.loop, List.length_append] at hlength
  exact absurd hlength (Nat.ne_of_lt (Nat.lt_succ_self _))

/-! ## One request

A request counts if the gateway serves when it comes. A hang-up never counts, and an interrupt only
if it is the first one. -/

/-- A gateway that does not serve cannot be asked to stop. -/
theorem unheeded_stop (hphase : c.phase ≠ .serving) : c.Unheeded c.stop := by
  rw [stop_of_not_serving hphase]
  exact ⟨rfl, rfl⟩

/-- One that serves is asked, and the callback that stops it comes behind those that wait. -/
theorem heeded_stop (hphase : c.phase = .serving) (hthere : c.loop.gone = false) :
    c.Heeded c.stop := by
  unfold stop EventLoop.schedule
  rw [hphase, hthere]
  exact ⟨rfl, rfl⟩

/-- Only a serving gateway heeds requests. -/
theorem unheeded_of_not_serving (hphase : c.phase ≠ .serving) (p : Prompting) :
    c.Unheeded (p.act c) := by
  cases p with
  | hangUp => exact ⟨rfl, rfl⟩
  | terminate | stop => exact unheeded_stop hphase
  | interrupt =>
    show c.Unheeded c.interrupt
    unfold interrupt
    split
    · exact ⟨rfl, rfl⟩
    · have hstop : Unheeded { c with interrupted := true } { c with interrupted := true }.stop :=
        unheeded_stop hphase
      exact ⟨hstop.phase, hstop.loop⟩

/-- Another interrupt is not looked at. -/
theorem unheeded_interrupt (hinterrupted : c.interrupted = true) : c.interrupt = c := by
  unfold interrupt
  rw [if_pos hinterrupted]

/-- The first interrupt is a request to stop. -/
theorem heeded_interrupt (hphase : c.phase = .serving) (hthere : c.loop.gone = false)
    (hfirst : c.interrupted = false) : c.Heeded c.interrupt := by
  have hstop : Heeded { c with interrupted := true } { c with interrupted := true }.stop :=
    heeded_stop hphase hthere
  unfold interrupt
  rw [hfirst]
  exact ⟨hstop.phase, hstop.queue⟩

/-! ## Whole histories

What is known after any history: the loop is there to be stopped, and whether an interrupt has come,
for which alone it matters what came before the gateway served. -/

theorem gone_drain (l : EventLoop ListenerEffect) : l.drain.gone = l.gone := by
  have hall : ∀ (queue : List (LoopCallback ListenerEffect)) (l : EventLoop ListenerEffect),
      (queue.foldl EventLoop.runCallback l).gone = l.gone := by
    intro queue
    induction queue with
    | nil => exact fun l => rfl
    | cons callback rest ih =>
      intro l
      rw [List.foldl_cons, ih, EventLoop.gone_runCallback]
  exact hall l.queue { l with queue := [] }

/-- A request to stop puts the callback on the loop, or does nothing to it. -/
theorem loop_stop (c : Coordinator) :
    c.stop.loop = c.loop ∨ c.stop.loop = c.loop.schedule stopCallback := by
  unfold stop
  split
  · exact .inr rfl
  · exact .inl rfl

theorem gone_stop (c : Coordinator) : c.stop.loop.gone = c.loop.gone := by
  rcases loop_stop c with h | h
  · rw [h]
  · rw [h, EventLoop.schedule]
    split <;> rfl

theorem interrupted_stop (c : Coordinator) : c.stop.interrupted = c.interrupted := by
  unfold stop
  split <;> rfl

theorem gone_prompting (p : Prompting) (c : Coordinator) :
    (p.act c).loop.gone = c.loop.gone := by
  cases p with
  | hangUp => rfl
  | terminate | stop => exact gone_stop c
  | interrupt =>
    show c.interrupt.loop.gone = c.loop.gone
    unfold interrupt
    split
    · rfl
    · exact gone_stop _

/-- Only interrupts are noted as such. -/
theorem interrupted_prompting (p : Prompting) (c : Coordinator) :
    (p.act c).interrupted = true ↔ c.interrupted = true ∨ p = .interrupt := by
  cases p with
  | hangUp => simp [Prompting.act, hangUp]
  | terminate | stop =>
    show c.stop.interrupted = true ↔ _
    rw [interrupted_stop]
    simp
  | interrupt =>
    show c.interrupt.interrupted = true ↔ _
    unfold interrupt
    split
    · next hinterrupted => simp [hinterrupted]
    · rw [interrupted_stop]
      simp

/-- What holds of every history: the event loop is there, and whether an interrupt has come is
known. -/
structure InOrder (events : List Event) (c : Coordinator) : Prop where
  there : c.loop.gone = false
  interrupted : c.interrupted = true ↔ .prompting .interrupt ∈ events

/-- One event more. -/
theorem InOrder.concat (h : InOrder events c) (e : Event) : InOrder (events ++ [e]) (e.act c) := by
  have hinterrupted {c' : Coordinator} (hsame : c'.interrupted = c.interrupted)
      (he : e ≠ .prompting .interrupt) :
      c'.interrupted = true ↔ .prompting .interrupt ∈ events ++ [e] := by
    rw [hsame, h.interrupted]
    simp [he.symm]
  cases e with
  | prompting p =>
    refine ⟨(gone_prompting p c).trans h.there, ?_⟩
    refine (interrupted_prompting p c).trans ?_
    rw [h.interrupted]
    simp [eq_comm]
  | drain => exact ⟨(gone_drain c.loop).trans h.there, hinterrupted rfl nofun⟩
  | runLoop =>
    exact ⟨(EventLoop.serves_run c.loop).gone.trans h.there, hinterrupted rfl nofun⟩
  | start | serve | finish => exact ⟨h.there, hinterrupted rfl nofun⟩

/-- Every history leaves a coordinator in order. -/
theorem inOrder_after (events : List Event) : InOrder events (after events) := by
  -- From the end: the last event happens to what the history before it leaves.
  induction events using List.reverseRecOn with
  | nil => exact ⟨rfl, nofun, nofun⟩
  | append_singleton events e ih =>
    rw [after_concat]
    exact ih.concat e

/-! ## Interrupts that came too early

An interrupt of a gateway that does not serve yet is noted, but stops nothing. In a history up to a
gateway that serves, every interrupt that came was too early, since otherwise it would have been
asked to stop. -/

theorem phase_stop (c : Coordinator) : c.stop.phase = c.phase.requestStop := by
  unfold stop
  split
  · rfl
  · next hnot => exact (if_neg hnot).symm

/-- A request changes the phase as a request to stop does, or not at all. -/
theorem phase_prompting (p : Prompting) (c : Coordinator) :
    (p.act c).phase = c.phase ∨ (p.act c).phase = c.phase.requestStop := by
  cases p with
  | hangUp => exact .inl rfl
  | terminate | stop => exact .inr (phase_stop c)
  | interrupt =>
    show c.interrupt.phase = _ ∨ c.interrupt.phase = _
    unfold interrupt
    split
    · exact .inl rfl
    · exact .inr (phase_stop _)

/-- A gateway that has been asked to stop cannot be made to serve again. -/
theorem unasked_of_act (e : Event) (h : (e.act c).phase.unasked = true) :
    c.phase.unasked = true := by
  cases e with
  | prompting p =>
    rcases phase_prompting p c with hphase | hphase
    · rwa [Event.act, hphase] at h
    · rw [Event.act, hphase] at h
      revert h
      cases c.phase <;> decide
  | drain | runLoop => exact h
  | start | serve =>
    revert h
    show (Phase.move _ _ _).unasked = true → _
    cases c.phase <;> decide
  | finish => cases h

/-- A gateway that has not been asked to stop was not asked before. -/
theorem unasked_of_append {past rest : List Event}
    (h : (after (past ++ rest)).phase.unasked = true) : (after past).phase.unasked = true := by
  induction rest using List.reverseRecOn with
  | nil => rwa [List.append_nil] at h
  | append_singleton rest e ih =>
    rw [← List.append_assoc, after_concat] at h
    exact ih (unasked_of_act e h)

/-- An interrupt came before the gateway served. -/
def TooEarly (events : List Event) : Prop :=
  ∃ past rest, events = past ++ .prompting .interrupt :: rest ∧
    ((after past).phase = .uninitialized ∨ (after past).phase = .starting)

/-- A gateway that serves although an interrupt has come was interrupted before it served. -/
theorem mem_iff_tooEarly (hserving : (after events).phase = .serving) :
    .prompting .interrupt ∈ events ↔ TooEarly events := by
  constructor
  · intro hmem
    obtain ⟨past, rest, rfl, hfirst⟩ := List.eq_append_cons_of_mem hmem
    refine ⟨past, rest, rfl, ?_⟩
    have hlast : (after (past ++ [.prompting .interrupt] ++ rest)).phase.unasked = true := by
      rw [List.append_assoc, List.singleton_append, hserving]
      rfl
    have hunasked := unasked_of_append hlast
    -- Had it come while the gateway served, it would have been heeded.
    have hnot : (after past).phase ≠ .serving := by
      intro hphase
      have horder := inOrder_after past
      have hinterrupted : (after past).interrupted = false :=
        Bool.eq_false_iff.2 fun h => hfirst (horder.interrupted.1 h)
      have hheeded := heeded_interrupt hphase horder.there hinterrupted
      rw [after_concat] at hunasked
      have hasked : ((Event.prompting .interrupt).act (after past)).phase = .stopRequested :=
        hheeded.phase
      rw [hasked] at hunasked
      cases hunasked
    have hearlier := unasked_of_append hunasked
    revert hearlier hnot
    cases (after past).phase <;> simp [Phase.unasked]
  · rintro ⟨past, rest, rfl, -⟩
    simp

/-- A request that counts: the gateway serves, and it is no hang-up, nor an interrupt after one that
came too early. -/
structure Counts (events : List Event) (p : Prompting) : Prop where
  serving : (after events).phase = .serving
  noHangUp : p ≠ .hangUp
  notEarly : p = .interrupt → ¬ TooEarly events

/-- A request that counts is heeded, whichever of the three it is. -/
theorem Counts.heeded {p : Prompting} (h : Counts events p) :
    (after events).Heeded (p.act (after events)) := by
  have horder := inOrder_after events
  cases p with
  | hangUp => exact absurd rfl h.noHangUp
  | terminate | stop => exact heeded_stop h.serving horder.there
  | interrupt =>
    refine heeded_interrupt h.serving horder.there (Bool.eq_false_iff.2 fun hinterrupted => ?_)
    exact h.notEarly rfl ((mem_iff_tooEarly h.serving).1 (horder.interrupted.1 hinterrupted))

/-- One that does not count fails for one of the three reasons. -/
theorem unheeded_of_not_counts {p : Prompting} (h : ¬ Counts events p) :
    (after events).Unheeded (p.act (after events)) := by
  by_cases hserving : (after events).phase = .serving
  · cases p with
    | hangUp => exact ⟨rfl, rfl⟩
    | terminate | stop => exact absurd ⟨hserving, nofun, nofun⟩ h
    | interrupt =>
      have hearly : TooEarly events := by
        by_contra hnot
        exact h ⟨hserving, nofun, fun _ => hnot⟩
      have hinterrupted : (after events).interrupted = true :=
        (inOrder_after events).interrupted.2 ((mem_iff_tooEarly hserving).2 hearly)
      show (after events).Unheeded (after events).interrupt
      rw [unheeded_interrupt hinterrupted]
      exact ⟨rfl, rfl⟩
  · exact unheeded_of_not_serving hserving p

/-- A serving gateway heeds every request, save hang-ups, and interrupts where one has come before
it served. A request that is not heeded changes nothing. -/
theorem heeded_iff (events : List Event) (p : Prompting) :
    ((after events).Heeded (p.act (after events)) ↔ Counts events p) ∧
    ((after events).Heeded (p.act (after events)) ∨
      (after events).Unheeded (p.act (after events))) := by
  by_cases hcounts : Counts events p
  · exact ⟨iff_of_true hcounts.heeded hcounts, .inl hcounts.heeded⟩
  · have hunheeded := unheeded_of_not_counts hcounts
    exact ⟨iff_of_false (not_heeded_of_unheeded hunheeded) hcounts, .inr hunheeded⟩

/-- A gateway that was interrupted before it served goes on when it is interrupted again. -/
theorem interrupt_unheeded :
    ¬ ∀ (events : List Event) (p : Prompting), (after events).phase = .serving → p ≠ .hangUp →
      (after events).Heeded (p.act (after events)) := by
  intro h
  have hheeded := h [.prompting .interrupt, .start, .serve] .interrupt (by decide) (by decide)
  have hphase := hheeded.phase
  revert hphase
  decide

end Coordinator

end KernelGate
