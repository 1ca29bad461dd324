/-! Finite runs of a partial step function. A label that is not enabled in a
state has no successor, so a list of labels is a run exactly when every label
of it is enabled where it is taken. -/
namespace Transition

universe u v
variable {σ : Type u} {α : Type v} {step : σ → α → Option σ}

/-- The state after a list of labels, when each of them is enabled in turn. -/
def exec (step : σ → α → Option σ) : σ → List α → Option σ
  | s, [] => some s
  | s, a :: as => (step s a).bind fun t => exec step t as

def Reachable (step : σ → α → Option σ) (start s : σ) : Prop :=
  ∃ labels, exec step start labels = some s

@[simp] theorem exec_nil (s : σ) : exec step s [] = some s := rfl

theorem exec_cons (s : σ) (a : α) (as : List α) :
    exec step s (a :: as) = (step s a).bind fun t => exec step t as := rfl

theorem exec_cons_some {s u : σ} {a : α} {as : List α} (run : exec step s (a :: as) = some u) :
    ∃ t, step s a = some t ∧ exec step t as = some u := by
  simpa only [exec_cons, Option.bind_eq_some_iff] using run

theorem exec_step {s t : σ} {a : α} {as : List α} {r : Option σ} (taken : step s a = some t)
    (rest : exec step t as = r) : exec step s (a :: as) = r := by
  rw [exec_cons, taken]
  exact rest

theorem exec_append (s : σ) (as bs : List α) :
    exec step s (as ++ bs) = (exec step s as).bind fun t => exec step t bs := by
  induction as generalizing s with
  | nil => rfl
  | cons a as ih =>
      simp only [List.cons_append, exec_cons]
      cases step s a with
      | none => rfl
      | some t => exact ih t

theorem exec_trans {s t : σ} {as bs : List α} {r : Option σ} (run : exec step s as = some t)
    (rest : exec step t bs = r) : exec step s (as ++ bs) = r := by
  rw [exec_append, run]
  exact rest

theorem exec_append_some {s u : σ} {as bs : List α} (run : exec step s (as ++ bs) = some u) :
    ∃ t, exec step s as = some t ∧ exec step t bs = some u := by
  simpa only [exec_append, Option.bind_eq_some_iff] using run

/-- A property that every enabled step keeps holds at the end of every run. -/
theorem exec_invariant {I : σ → Prop}
    (keep : ∀ s a t, I s → step s a = some t → I t)
    {s t : σ} {labels : List α} (start : I s) (run : exec step s labels = some t) : I t := by
  induction labels generalizing s with
  | nil =>
      cases run
      exact start
  | cons a as ih =>
      obtain ⟨u, first, rest⟩ := exec_cons_some run
      exact ih (keep s a u start first) rest

/-- Where every label is enabled and kept by `I`, every list of labels is a run. -/
theorem exec_total {I : σ → Prop} (keep : ∀ s a, I s → ∃ t, step s a = some t ∧ I t) {s : σ}
    (start : I s) (labels : List α) : ∃ t, exec step s labels = some t ∧ I t := by
  induction labels generalizing s with
  | nil => exact ⟨s, rfl, start⟩
  | cons a as ih =>
      obtain ⟨t, taken, kept⟩ := keep s a start
      obtain ⟨u, run, finish⟩ := ih kept
      exact ⟨u, exec_step taken run, finish⟩

/-- Every label of a run satisfies `ok` in the state it is taken in. -/
def Along (step : σ → α → Option σ) (ok : σ → α → Prop) (s : σ) (labels : List α) : Prop :=
  ∀ before a after t, labels = before ++ a :: after → exec step s before = some t → ok t a

theorem Along.head {ok : σ → α → Prop} {s : σ} {a : α} {as : List α}
    (along : Along step ok s (a :: as)) : ok s a := along [] a as s rfl rfl

theorem Along.tail {ok : σ → α → Prop} {s t : σ} {a : α} {as : List α}
    (along : Along step ok s (a :: as)) (taken : step s a = some t) : Along step ok t as := by
  intro before b after u split reached
  exact along (a :: before) b after u (congrArg (a :: ·) split) (exec_step taken reached)

theorem Along.nil {ok : σ → α → Prop} (s : σ) : Along step ok s [] := by
  rintro (_ | ⟨b, before⟩) a after t ⟨⟩

theorem Along.cons {ok : σ → α → Prop} {s t : σ} {a : α} {as : List α} (here : ok s a)
    (taken : step s a = some t) (rest : Along step ok t as) : Along step ok s (a :: as) := by
  rintro (_ | ⟨b, before⟩) c after u split reached
  · obtain ⟨rfl, rfl⟩ := List.cons.inj split
    cases reached
    exact here
  · obtain ⟨rfl, rfl⟩ := List.cons.inj split
    rw [exec_cons, taken, Option.bind_some] at reached
    exact rest before c after u rfl reached

theorem Along.left {ok : σ → α → Prop} {s : σ} {as bs : List α}
    (along : Along step ok s (as ++ bs)) : Along step ok s as := by
  intro before a after t split reached
  refine along before a (after ++ bs) t ?_ reached
  rw [split, List.append_assoc]
  rfl

theorem Along.append {ok : σ → α → Prop} {s t : σ} {as bs : List α} (along : Along step ok s as)
    (run : exec step s as = some t) (rest : Along step ok t bs) :
    Along step ok s (as ++ bs) := by
  induction as generalizing s with
  | nil =>
      cases run
      exact rest
  | cons a as ih =>
      obtain ⟨u, taken, run⟩ := exec_cons_some run
      exact .cons along.head taken (ih (along.tail taken) run)

theorem Along.of_mem {ok : α → Prop} {s : σ} {labels : List α} (every : ∀ a ∈ labels, ok a) :
    Along step (fun _ a => ok a) s labels := by
  rintro before a after t rfl -
  exact every a (List.mem_append_right before List.mem_cons_self)

theorem Along.forall_mem {ok : σ → α → Prop} {P : α → Prop} {s t : σ} {labels : List α}
    (along : Along step ok s labels) (run : exec step s labels = some t)
    (weaker : ∀ s a, ok s a → P a) : ∀ a ∈ labels, P a := by
  intro a member
  obtain ⟨before, after, rfl⟩ := List.append_of_mem member
  obtain ⟨u, reached, _⟩ := exec_append_some run
  exact weaker u a (along before a after u rfl reached)

theorem Along.and {ok ok' : σ → α → Prop} {s : σ} {labels : List α}
    (along : Along step ok s labels) (along' : Along step ok' s labels) :
    Along step (fun s a => ok s a ∧ ok' s a) s labels := by
  intro before a after t split reached
  exact ⟨along before a after t split reached, along' before a after t split reached⟩

/-- Where a step that brings the goal closer is always enabled, the goal is reached. -/
theorem exec_reaches {I goal : σ → Prop} {ok : σ → α → Prop} (left : σ → Nat)
    (progress : ∀ s, I s → goal s ∨ ∃ a t, ok s a ∧ step s a = some t ∧ I t ∧ left t < left s)
    {s : σ} (start : I s) :
    ∃ labels t, exec step s labels = some t ∧ goal t ∧ labels.length ≤ left s ∧
      Along step ok s labels := by
  induction bound : left s using Nat.strongRecOn generalizing s with
  | ind n ih =>
      subst bound
      rcases progress s start with there | ⟨a, t, fine, taken, kept, closer⟩
      · exact ⟨[], s, rfl, there, Nat.zero_le _, .nil s⟩
      · obtain ⟨labels, u, run, there, short, along⟩ := ih (left t) closer kept rfl
        refine ⟨a :: labels, u, exec_step taken run, there, ?_, .cons fine taken along⟩
        rw [List.length_cons]
        omega

/-- A run with a label that is not `ok` reaches the state where it is taken. -/
theorem exec_of_not_along {ok : σ → α → Prop} {s t : σ} {labels : List α}
    (run : exec step s labels = some t) (broken : ¬ Along step ok s labels) :
    ∃ before a after u v, labels = before ++ a :: after ∧ exec step s before = some u ∧ ¬ ok u a ∧
      step u a = some v ∧ exec step v after = some t := by
  simp only [Along, Classical.not_forall] at broken
  obtain ⟨before, a, after, u, rfl, reached, broken⟩ := broken
  obtain ⟨u', reached', rest⟩ := exec_append_some run
  obtain rfl : u = u' := Option.some.inj (reached.symm.trans reached')
  obtain ⟨v, taken, rest⟩ := exec_cons_some rest
  exact ⟨before, a, after, u, v, rfl, reached, broken, taken, rest⟩

/-- The same rule along runs whose labels all satisfy `ok`. -/
theorem exec_along {I : σ → Prop} {ok : σ → α → Prop}
    (keep : ∀ s a t, I s → ok s a → step s a = some t → I t) {s t : σ} {labels : List α}
    (start : I s) (run : exec step s labels = some t) (along : Along step ok s labels) : I t := by
  induction labels generalizing s with
  | nil =>
      cases run
      exact start
  | cons a as ih =>
      obtain ⟨u, first, rest⟩ := exec_cons_some run
      exact ih (keep s a u start along.head first) rest (along.tail first)

/-- The same rule for what may look back at the labels of the run so far. -/
theorem exec_past {I : List α → σ → Prop} {ok : σ → α → Prop}
    (keep : ∀ past s a t, I past s → ok s a → step s a = some t → I (past ++ [a]) t)
    {past labels : List α} {s t : σ} (start : I past s) (run : exec step s labels = some t)
    (along : Along step ok s labels) : I (past ++ labels) t := by
  induction labels generalizing past s with
  | nil =>
      cases run
      rw [List.append_nil]
      exact start
  | cons a as ih =>
      obtain ⟨u, first, rest⟩ := exec_cons_some run
      have later := ih (keep past s a u start along.head first) rest (along.tail first)
      rw [List.append_assoc] at later
      exact later

/-- What only an event makes true, and nothing false again, tells whether the event occurred. -/
theorem exec_flag_iff {F : σ → Prop} {event : σ → α → Prop}
    (sets : ∀ s a t, step s a = some t → (F t ↔ F s ∨ event s a)) {s t : σ} {labels : List α}
    (run : exec step s labels = some t) :
    F t ↔ F s ∨ ∃ before a after u, labels = before ++ a :: after ∧
      exec step s before = some u ∧ event u a := by
  induction labels generalizing s with
  | nil =>
      cases run
      refine ⟨.inl, fun either => either.resolve_right ?_⟩
      rintro ⟨_ | ⟨b, before⟩, a, after, u, ⟨⟩, _⟩
  | cons a as ih =>
      obtain ⟨v, first, rest⟩ := exec_cons_some run
      have later : ∀ before u, exec step s (a :: before) = some u ↔
          exec step v before = some u := by
        intro before u
        rw [exec_cons, first, Option.bind_some]
      rw [ih rest, sets s a v first, or_assoc]
      refine or_congr_right ⟨?_, ?_⟩
      · rintro (here | ⟨before, b, after, u, rfl, reached, there⟩)
        · exact ⟨[], a, as, s, rfl, rfl, here⟩
        · exact ⟨a :: before, b, after, u, rfl, (later before u).mpr reached, there⟩
      · rintro ⟨_ | ⟨b, before⟩, c, after, u, split, reached, there⟩
        · obtain ⟨rfl, rfl⟩ := List.cons.inj split
          cases reached
          exact .inl there
        · obtain ⟨rfl, rfl⟩ := List.cons.inj split
          exact .inr ⟨before, c, after, u, rfl, (later before u).mp reached, there⟩

/-- A property that a step keeps exactly when it is `ok` holds in every state of exactly those
runs whose steps all are. A label that is not enabled counts as `ok`. -/
theorem throughout_iff {I J : σ → Prop} {ok : σ → α → Prop} {start : σ}
    (keep : ∀ s a t, I s → step s a = some t → I t)
    (exact_ : ∀ s a t, I s → J s → step s a = some t → (J t ↔ ok s a))
    (blocked : ∀ s a, step s a = none → ok s a) (init : I start) (first : J start)
    (labels : List α) :
    (∀ before after s, labels = before ++ after → exec step start before = some s → J s) ↔
      Along step ok start labels := by
  constructor
  · intro every before a after s split reached
    cases taken : step s a with
    | none => exact blocked s a taken
    | some t =>
        have here := every before (a :: after) s split reached
        refine (exact_ s a t (exec_invariant keep init reached) here taken).mp ?_
        refine every (before ++ [a]) after t ?_ ?_
        · rw [split, List.append_assoc]
          rfl
        · exact exec_trans reached (exec_step taken rfl)
  · rintro along before after s rfl reached
    have step_ : ∀ s a t, I s ∧ J s → ok s a → step s a = some t → I t ∧ J t :=
      fun s a t both here taken =>
        ⟨keep s a t both.1 taken, (exact_ s a t both.1 both.2 taken).mpr here⟩
    have both : (fun s => I s ∧ J s) s := exec_along step_ ⟨init, first⟩ reached along.left
    exact both.2

theorem Reachable.invariant {I : σ → Prop}
    (keep : ∀ s a t, I s → step s a = some t → I t)
    {start s : σ} (init : I start) (reached : Reachable step start s) : I s := by
  obtain ⟨labels, run⟩ := reached
  exact exec_invariant keep init run

/-- When every sound step is matched by some steps of another system, every run is. What is sound
and what is kept may look back at the labels of the run so far. -/
theorem exec_simulation {τ : Type u} {β : Type v} {step' : τ → β → Option τ}
    {R : List α → σ → τ → Prop} {ok : List α → α → Prop}
    (matches_ : ∀ past s a s' t, R past s t → ok past a → step s a = some s' →
      ∃ labels t', exec step' t labels = some t' ∧ R (past ++ [a]) s' t')
    {past labels : List α} {s s' : σ} {t : τ} (start : R past s t)
    (sound : ∀ before a after, labels = before ++ a :: after → ok (past ++ before) a)
    (run : exec step s labels = some s') :
    ∃ labels' t', exec step' t labels' = some t' ∧ R (past ++ labels) s' t' := by
  induction labels generalizing past s t with
  | nil =>
      cases run
      refine ⟨[], t, rfl, ?_⟩
      rw [List.append_nil]
      exact start
  | cons a labels ih =>
      obtain ⟨u, first, rest⟩ := exec_cons_some run
      have here : ok past a := by
        have first := sound [] a labels rfl
        rwa [List.append_nil] at first
      obtain ⟨before, v, reached, kept⟩ := matches_ past s a u t start here first
      have later : ∀ front b after, labels = front ++ b :: after → ok (past ++ [a] ++ front) b := by
        intro front b after split
        rw [List.append_assoc]
        exact sound (a :: front) b after (congrArg (a :: ·) split)
      obtain ⟨after, t', more, kept⟩ := ih kept later rest
      rw [List.append_assoc] at kept
      exact ⟨before ++ after, t', exec_trans reached more, kept⟩

end Transition
