import Mathlib.Data.List.Basic

/-! Runs of a machine over a finite list of events. A guard is judged in the state each
event meets, so a condition on a run is a condition on its steps. -/
namespace NxReverse.Runs

variable {σ : Type u} {ε : Type v}

/-- Every event of the run satisfies `guard` in the state it meets. -/
def Guarded (step : σ → ε → σ) (guard : σ → ε → Prop) : σ → List ε → Prop
  | _, [] => True
  | s, e :: rest => guard s e ∧ Guarded step guard (step s e) rest

instance Guarded.decidable (step : σ → ε → σ) (guard : σ → ε → Prop)
    [∀ s e, Decidable (guard s e)] : (s : σ) → (events : List ε) → Decidable (Guarded step guard s events)
  | _, [] => .isTrue trivial
  | s, e :: rest =>
    have := Guarded.decidable step guard (step s e) rest
    inferInstanceAs (Decidable (guard s e ∧ Guarded step guard (step s e) rest))

variable {step : σ → ε → σ} {guard other : σ → ε → Prop}

theorem guarded_append {s : σ} {first second : List ε} :
    Guarded step guard s (first ++ second) ↔
      Guarded step guard s first ∧ Guarded step guard (first.foldl step s) second := by
  induction first generalizing s with
  | nil => simp [Guarded]
  | cons e rest ih => simp [Guarded,ih,and_assoc]

theorem Guarded.before {s : σ} {first second : List ε}
    (guarded : Guarded step guard s (first ++ second)) : Guarded step guard s first :=
  (guarded_append.mp guarded).1

theorem Guarded.and {s : σ} {events : List ε} (left : Guarded step guard s events)
    (right : Guarded step other s events) :
    Guarded step (fun s e => guard s e ∧ other s e) s events := by
  induction events generalizing s with
  | nil => trivial
  | cons e rest ih => exact ⟨⟨left.1,right.1⟩,ih left.2 right.2⟩

theorem Guarded.of_forall (all : ∀ s e, guard s e) (s : σ) (events : List ε) : Guarded step guard s events := by
  induction events generalizing s with
  | nil => trivial
  | cons e rest ih => exact ⟨all s e,ih (step s e)⟩

/-- What guarded steps preserve holds after every guarded run. -/
theorem Guarded.invariant (Inv : σ → Prop)
    (preserved : ∀ s e, Inv s → guard s e → Inv (step s e)) {s : σ} {events : List ε}
    (guarded : Guarded step guard s events) (initial : Inv s) :
    Inv (events.foldl step s) := by
  induction events generalizing s with
  | nil => exact initial
  | cons e rest ih => exact ih guarded.2 (preserved s e initial guarded.1)

/-- A machine that follows another step by step follows whole runs, and meets what their guards ensure. -/
theorem Guarded.simulated {τ : Type w} {δ : Type x} {follow : τ → δ → τ} {ensured : τ → δ → Prop} (Inv : σ → Prop)
    {state : σ → τ} {event : ε → δ} (kept : ∀ s e, Inv s → guard s e → Inv (step s e))
    (follows : ∀ s e, Inv s → guard s e → state (step s e) = follow (state s) (event e))
    (ensures : ∀ s e, Inv s → guard s e → ensured (state s) (event e)) {s : σ} {events : List ε}
    (guarded : Guarded step guard s events) (initial : Inv s) :
    Guarded follow ensured (state s) (events.map event) ∧
      state (events.foldl step s) = (events.map event).foldl follow (state s) := by
  induction events generalizing s with
  | nil => exact ⟨trivial,rfl⟩
  | cons e rest ih =>
    have later := ih guarded.2 (kept s e initial guarded.1)
    rw [follows s e initial guarded.1] at later
    exact ⟨⟨ensures s e initial guarded.1,later.1⟩,later.2⟩

/-- Where guarded steps keep `Inv`, which shows `Seen`, and other steps break `Seen`, every state of a
run satisfies `Seen` exactly when all its steps are guarded. -/
theorem seen_iff_guarded (Inv Seen : σ → Prop) (shows : ∀ s, Inv s → Seen s)
    (kept : ∀ s e, Inv s → other s e → guard s e → Inv (step s e))
    (needed : ∀ s e, Inv s → other s e → Seen (step s e) → guard s e) {s : σ} {events : List ε}
    (admitted : Guarded step other s events) (initial : Inv s) :
    (∀ before after, events = before ++ after → Seen (before.foldl step s)) ↔ Guarded step guard s events := by
  induction events generalizing s with
  | nil =>
    refine ⟨fun _ => trivial,fun _ before after split => ?_⟩
    rw [(List.append_eq_nil_iff.mp split.symm).1]
    exact shows s initial
  | cons e rest ih =>
    constructor
    · intro holds
      have here := needed s e initial admitted.1 (holds [e] rest rfl)
      have later := (ih admitted.2 (kept s e initial admitted.1 here)).mp fun before after split =>
        holds (e :: before) after (by rw [split,List.cons_append])
      exact ⟨here,later⟩
    · rintro ⟨guarded,later⟩ before after split
      cases before with
      | nil => exact shows s initial
      | cons first before =>
        obtain ⟨rfl,rest_eq⟩ := List.cons.inj split
        exact (ih admitted.2 (kept s e initial admitted.1 guarded)).mpr later before after rest_eq

/-- Where a step keeps `Inv` exactly under `guard`, a run stays in `Inv` exactly when all
its steps are guarded. -/
theorem invariant_iff_guarded (Inv : σ → Prop)
    (exact : ∀ s e, Inv s → other s e → (Inv (step s e) ↔ guard s e)) {s : σ} {events : List ε}
    (admitted : Guarded step other s events) (initial : Inv s) :
    (∀ before after, events = before ++ after → Inv (before.foldl step s)) ↔ Guarded step guard s events :=
  seen_iff_guarded Inv Inv (fun _ inv => inv) (fun s e inv other => (exact s e inv other).mpr)
    (fun s e inv other => (exact s e inv other).mp) admitted initial

end NxReverse.Runs
