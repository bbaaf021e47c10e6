import Mathlib.Order.Defs.Unbundled
import Mathlib.Data.List.Induction

/-! Finite runs of a total step function. `Meets` says that every step of a run is taken from a
state that allows it. An invariant and a relation between the first and the last state are each
established by one step lemma; the inductions over a run are here and nowhere else. -/
namespace Transition

variable {σ ε : Type*}

def run (step : σ → ε → σ) (s : σ) (events : List ε) : σ := events.foldl step s

@[simp] theorem runNil (step : σ → ε → σ) (s : σ) : run step s [] = s := rfl

@[simp] theorem runCons (step : σ → ε → σ) (s : σ) (e : ε) (rest : List ε) :
    run step s (e :: rest) = run step (step s e) rest := rfl

theorem runAppend (step : σ → ε → σ) (s : σ) (first second : List ε) :
    run step s (first ++ second) = run step (run step s first) second := List.foldl_append

def Meets (step : σ → ε → σ) (ok : σ → ε → Prop) : σ → List ε → Prop
  | _,[] => True
  | s,e :: rest => ok s e ∧ Meets step ok (step s e) rest

instance Meets.decide (step : σ → ε → σ) (ok : σ → ε → Prop) [∀ s e, Decidable (ok s e)] :
    (s : σ) → (events : List ε) → Decidable (Meets step ok s events)
  | _,[] => .isTrue trivial
  | s,e :: rest =>
    have := Meets.decide step ok (step s e) rest
    inferInstanceAs (Decidable (ok s e ∧ Meets step ok (step s e) rest))

theorem meetsAppend {step} {ok : σ → ε → Prop} {s first second} :
    Meets step ok s (first ++ second) ↔
      Meets step ok s first ∧ Meets step ok (run step s first) second := by
  induction first generalizing s with
  | nil => simp [Meets]
  | cons e rest ih => simp only [List.cons_append,Meets,ih,runCons,and_assoc]

theorem meetsAnd {step} {first second : σ → ε → Prop} {s events}
    (one : Meets step first s events) (two : Meets step second s events) :
    Meets step (fun s e => first s e ∧ second s e) s events := by
  induction events generalizing s with
  | nil => trivial
  | cons e rest ih => exact ⟨⟨one.1,two.1⟩,ih one.2 two.2⟩

theorem meetsOf {step} {ok : σ → ε → Prop} {events}
    (all : ∀ e ∈ events, ∀ s, ok s e) (s : σ) : Meets step ok s events := by
  induction events generalizing s with
  | nil => trivial
  | cons e rest ih =>
    exact ⟨all e List.mem_cons_self s,ih (fun x mem => all x (List.mem_cons_of_mem _ mem)) _⟩

theorem runInvariant {step} {ok : σ → ε → Prop} {inv : σ → Prop}
    (keeps : ∀ s e, inv s → ok s e → inv (step s e)) {s events}
    (start : inv s) (meets : Meets step ok s events) : inv (run step s events) := by
  induction events generalizing s with
  | nil => exact start
  | cons e rest ih => exact ih (keeps s e start meets.1) meets.2

theorem runAlways {step} {inv : σ → Prop} (keeps : ∀ s e, inv s → inv (step s e))
    {s} (start : inv s) (events : List ε) : inv (run step s events) :=
  @runInvariant σ ε step (fun _ _ => True) inv (fun s e h _ => keeps s e h) s events start
    (meetsOf (fun _ _ _ => trivial) s)

theorem runHistory {step s} {inv : List ε → σ → Prop} (start : inv [] s)
    (keeps : ∀ past e, inv past (run step s past) → inv (past ++ [e]) (step (run step s past) e))
    (events : List ε) : inv events (run step s events) := by
  induction events using List.reverseRecOn with
  | nil => exact start
  | append_singleton past e ih =>
    rw [runAppend]
    exact keeps past e ih

/-- A property that holds after a run and not before it began with one of the steps. -/
theorem runTurns {step} {p : σ → Prop} {s} {events : List ε} (before : ¬ p s)
    (after : p (run step s events)) :
    ∃ first e rest, events = first ++ e :: rest ∧ ¬ p (run step s first) ∧
      p (run step s (first ++ [e])) := by
  induction events generalizing s with
  | nil => exact absurd after before
  | cons e rest ih =>
    by_cases now : p (step s e)
    · exact ⟨[],e,rest,rfl,before,now⟩
    · obtain ⟨first,e',rest',same,still,turned⟩ := ih now after
      exact ⟨e :: first,e',rest',by rw [same]; rfl,still,turned⟩

/-- A reflexive and transitive relation that every step taken from a state of an invariant respects
relates the ends of a run. -/
theorem runRelates {step} {ok : σ → ε → Prop} {inv : σ → Prop} {rel : σ → σ → Prop}
    (refl : ∀ s, rel s s) (trans : ∀ a b c, rel a b → rel b c → rel a c)
    (keeps : ∀ s e, inv s → ok s e → inv (step s e))
    (relates : ∀ s e, inv s → ok s e → rel s (step s e)) {s events}
    (start : inv s) (meets : Meets step ok s events) : rel s (run step s events) := by
  induction events generalizing s with
  | nil => exact refl s
  | cons e rest ih =>
    exact trans _ _ _ (relates s e start meets.1) (ih (keeps s e start meets.1) meets.2)

theorem runRelatesAlways {step} {rel : σ → σ → Prop} (refl : ∀ s, rel s s)
    (trans : ∀ a b c, rel a b → rel b c → rel a c) (relates : ∀ s e, rel s (step s e)) (s : σ)
    (events : List ε) : rel s (run step s events) :=
  @runRelates σ ε step (fun _ _ => True) (fun _ => True) rel refl trans (fun _ _ _ _ => trivial)
    (fun s e _ _ => relates s e) s events trivial (meetsOf (fun _ _ _ => trivial) s)

/-! Endless schedules. A system whose effective steps lower a measure, and that always has a party whose next step is
effective, ends when every party gets its turn again and again. -/

def trace (step : σ → ε → σ) (s : σ) (schedule : Nat → ε) : Nat → σ
  | 0 => s
  | n + 1 => step (trace step s schedule n) (schedule n)

def Fair {ι : Type*} (party : ε → ι) (schedule : Nat → ε) : Prop := ∀ p n, ∃ m, n ≤ m ∧ party (schedule m) = p

theorem fairEnds {ι : Type*} {step} {inv finished : σ → Prop} {party : ε → ι} (measure : σ → Nat)
    (keeps : ∀ s e, inv s → inv (step s e))
    (lowers : ∀ s e, inv s → step s e = s ∨ measure (step s e) < measure s)
    (live : ∀ s, inv s → ¬ finished s → ∃ p, ∀ e, party e = p → step s e ≠ s)
    {s} (start : inv s) {schedule} (fair : Fair party schedule) :
    ∃ n, finished (trace step s schedule n) := by
  have always : ∀ n, inv (trace step s schedule n) := by
    intro n
    induction n with
    | zero => exact start
    | succ n ih => exact keeps _ _ ih
  have fromHere : ∀ bound n, measure (trace step s schedule n) ≤ bound → ∃ m, finished (trace step s schedule m) := by
    intro bound
    induction bound using Nat.strongRecOn with
    | ind bound ih =>
      intro n small
      by_cases now : finished (trace step s schedule n)
      · exact ⟨n,now⟩
      obtain ⟨p,moves⟩ := live _ (always n) now
      obtain ⟨m,later,turn⟩ := fair p n
      -- Up to the party's turn a step is effective, or nothing has changed.
      have waits : ∀ k, (∃ j, finished (trace step s schedule j)) ∨
          trace step s schedule (n + k) = trace step s schedule n := by
        intro k
        induction k with
        | zero => exact .inr rfl
        | succ k same =>
          rcases same with ends | same
          · exact .inl ends
          rcases lowers _ (schedule (n + k)) (always (n + k)) with still | less
          · exact .inr (still.trans same)
          · rw [same] at less
            refine .inl (ih _ (Nat.lt_of_lt_of_le less small) (n + k + 1) (Nat.le_of_eq ?_))
            rw [trace,same]
      rcases waits (m - n) with ends | same
      · exact ends
      rw [Nat.add_sub_cancel' later] at same
      rcases lowers _ (schedule m) (always m) with still | less
      · rw [same] at still
        exact absurd still (moves _ turn)
      · rw [same] at less
        refine ih _ (Nat.lt_of_lt_of_le less small) (m + 1) (Nat.le_of_eq ?_)
        rw [trace,same]
  exact fromHere _ 0 (Nat.le_refl _)

end Transition
