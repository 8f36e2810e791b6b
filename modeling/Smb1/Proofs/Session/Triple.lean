import Mathlib.Tactic.Common
import Smb1.Session.Exchange

/-! Triples about steps. An exchange runs steps of its session, and a session steps of its
connection; what is asserted of the outer state is carried to the inner one and back. -/
namespace Smb1.Session

open Std.Do

set_option mvcgen.warning false

/-- An assertion that holds after a step, whether it failed or not. -/
abbrev anyway {σ α : Type} (P : σ → Prop) : PostCond α (.except Error (.arg σ .pure)) :=
  post⟨fun _ s => ⌜P s⌝, fun _ s => ⌜P s⌝⟩

theorem get_apply {σ : Type} (s : σ) : (get : EStateM Error σ σ) s = .ok s s := rfl

/-- A triple speaks of the result of its step. -/
theorem triple_iff {σ α : Type} {P : σ → Prop} {step : EStateM Error σ α} {Q : α → σ → Prop}
    {E : Error → σ → Prop} :
    ⦃fun s => ⌜P s⌝⦄ step ⦃post⟨fun a s => ⌜Q a s⌝, fun e s => ⌜E e s⌝⟩⦄ ↔
      ∀ s, P s → match step s with
        | .ok a s' => Q a s'
        | .error e s' => E e s' := by
  refine forall_congr' fun s => imp_congr_right fun _ => ?_
  simp only [WP.wp, EStateM.run, PredTrans.apply]
  cases step s <;> exact Iff.rfl

/-- A step that goes well and whose result has a property. -/
theorem exists_of_any {σ α : Type} {step : EStateM Error σ α} {s : σ} {p : α → Bool}
    (holds : (step.run' s).any p = true) : ∃ a s', step s = .ok a s' ∧ p a = true := by
  unfold EStateM.run' EStateM.run at holds
  cases done : step s with
  | error e s' => rw [done] at holds; cases holds
  | ok a s' => rw [done] at holds; exact ⟨a, s', rfl, holds⟩

@[spec]
theorem discard_spec {σ α : Type} {step : EStateM Error σ α}
    {Q : PostCond PUnit (.except Error (.arg σ .pure))} :
    ⦃wp⟦step⟧ (fun _ => Q.1 ⟨⟩, Q.2)⦄ discard step ⦃Q⦄ := by
  have unfolded : discard step = (do let _ ← step; return ⟨⟩ : EStateM Error σ PUnit) := rfl
  rw [unfolded]
  mvcgen

theorem discard_anyway {σ α : Type} {P : σ → Prop} {step : EStateM Error σ α}
    (kept : ⦃fun s => ⌜P s⌝⦄ step ⦃anyway P⦄) : ⦃fun s => ⌜P s⌝⦄ discard step ⦃anyway P⦄ := by
  mvcgen [kept]

/-- Nothing is known of the connection after one of its steps. -/
@[spec]
theorem onConnection_spec {α : Type} (step : Connection.Step α)
    (Q : PostCond α (.except Error (.arg Session .pure))) :
    ⦃fun s => ⌜∀ connection, (∀ a, (Q.1 a { s with connection }).down) ∧
      ∀ e, (Q.2.1 e { s with connection }).down⌝⦄ onConnection step ⦃Q⦄ := by
  intro s
  simp only [WP.wp, EStateM.run, PredTrans.apply, onConnection]
  cases step s.connection with
  | ok a connection => exact fun kept => (kept connection).1 a
  | error e connection => exact fun kept => (kept connection).2 e

@[spec]
theorem Exchange.onSession_spec {α : Type} (step : Session.Step α)
    (Q : PostCond α (.except Error (.arg (Session × Exchange) .pure))) :
    ⦃fun st => wp⟦step⟧ (fun a s => Q.1 a (s, st.2), fun e s => Q.2.1 e (s, st.2), ⟨⟩) st.1⦄
      Exchange.onSession step ⦃Q⦄ := by
  rintro ⟨s, x⟩
  simp only [WP.wp, EStateM.run, PredTrans.apply, onSession]
  cases step s <;> exact id

@[spec]
theorem exchanging_spec {α : Type} (request response : Message) (step : Exchange.Step α)
    (Q : PostCond (α × Exchange) (.except Error (.arg Session .pure))) :
    ⦃fun s => wp⟦step⟧ (fun a st => Q.1 (a, st.2) st.1, fun e st => Q.2.1 e st.1, ⟨⟩)
      (s, ⟨request, response⟩)⦄ exchanging request response step ⦃Q⦄ := by
  intro s
  simp only [WP.wp, EStateM.run, PredTrans.apply, exchanging]
  cases step (s, ⟨request, response⟩) <;> exact id

end Smb1.Session
