import Mathlib.Data.List.Perm.Basic
import Verdict.Trial

/-!
# What comes of a trial

A trial is followed here for its outcome alone. Outcomes compose as exceptions do, so a composed
trial is taken apart by what came of its first part: `outcome_bind_ok` for a trial that ends well
and `outcome_bind_error` for one that is rejected. `Trial.each` is taken apart in the same two ways,
place by place. Where a trial is to be compared with another as a whole, journal included, it is
rewritten by the laws of a monad; where only what it ends with is to be compared, and one rejection
is as good as another, the two trials are followed side by side (`EndAlike`).
-/

namespace Verdict

variable {α β γ : Type}

theorem map_eq_ok {result : Except Rejection α} {f : α → β} {b : β} :
    result.map f = .ok b ↔ ∃ a, result = .ok a ∧ b = f a := by
  cases result with
  | ok a => simp [Except.map, eq_comm]
  | error rejection => simp [Except.map]

theorem map_eq_error {result : Except Rejection α} {f : α → β} {rejection : Rejection} :
    result.map f = .error rejection ↔ result = .error rejection := by
  cases result <;> simp [Except.map]

namespace Trial

@[simp] theorem outcome_pure (a : α) : (pure a : Trial α).outcome = .ok a := rfl

theorem outcome_bind_of_ok {first : Trial α} {a : α} (h : first.outcome = .ok a)
    (next : α → Trial β) : (first >>= next).outcome = (next a).outcome := by
  change (Trial.bind first next).outcome = _
  simp only [Trial.bind, h]

theorem outcome_bind_of_error {first : Trial α} {rejection : Rejection}
    (h : first.outcome = .error rejection) (next : α → Trial β) :
    (first >>= next).outcome = .error rejection := by
  change (Trial.bind first next).outcome = _
  simp only [Trial.bind, h]

theorem outcome_bind_ok {first : Trial α} {next : α → Trial β} {b : β} :
    (first >>= next).outcome = .ok b ↔ ∃ a, first.outcome = .ok a ∧ (next a).outcome = .ok b := by
  cases h : first.outcome with
  | ok a => simp [outcome_bind_of_ok h]
  | error rejection => simp [outcome_bind_of_error h]

theorem outcome_bind_error {first : Trial α} {next : α → Trial β} {rejection : Rejection} :
    (first >>= next).outcome = .error rejection ↔
      first.outcome = .error rejection ∨
        ∃ a, first.outcome = .ok a ∧ (next a).outcome = .error rejection := by
  cases h : first.outcome with
  | ok a => simp [outcome_bind_of_ok h]
  | error rejection => simp [outcome_bind_of_error h]

/-- A last step that cannot be rejected only changes what comes of the steps before it. -/
theorem outcome_bind_pure (first : Trial α) (f : α → β) :
    (first >>= fun a => pure (f a)).outcome = first.outcome.map f := by
  cases h : first.outcome with
  | ok a => rw [outcome_bind_of_ok h, outcome_pure, Except.map]
  | error rejection => rw [outcome_bind_of_error h, Except.map]

/-! ### Trials as programs -/

/-- A trial that follows two others continues the journal of both. -/
instance : LawfulMonad Trial := LawfulMonad.mk' Trial
  (by
    intro α trial
    change Trial.bind trial Trial.pure = trial
    obtain ⟨journal, outcome⟩ := trial
    cases outcome with
    | ok a => simp only [Trial.bind, Trial.pure, List.append_nil]
    | error rejection => rfl)
  (fun _ _ => rfl)
  (by
    intro α β γ first next last
    change Trial.bind (Trial.bind first next) last =
      Trial.bind first fun a => Trial.bind (next a) last
    obtain ⟨journal, outcome⟩ := first
    cases outcome with
    | error rejection => rfl
    | ok a =>
        simp only [Trial.bind]
        cases (next a).outcome with
        | ok b => simp only [List.append_assoc]
        | error rejection => rfl)

theorem outcome_map (f : α → β) (trial : Trial α) :
    (f <$> trial).outcome = trial.outcome.map f := by
  rw [← bind_pure_comp]
  exact outcome_bind_pure trial f

/-! ### A trial for each element -/

theorem outcome_each_nil (run : α → Trial β) : (each run []).outcome = .ok [] := rfl

theorem outcome_each_cons_ok {run : α → Trial β} {a : α} {rest : List α} {bs : List β} :
    (each run (a :: rest)).outcome = .ok bs ↔
      ∃ b others, (run a).outcome = .ok b ∧
        (each run rest).outcome = .ok others ∧ bs = b :: others := by
  simp only [each, outcome_bind_ok, outcome_pure, Except.ok.injEq]
  constructor
  · rintro ⟨b, hb, others, hothers, rfl⟩
    exact ⟨b, others, hb, hothers, rfl⟩
  · rintro ⟨b, others, hb, hothers, rfl⟩
    exact ⟨b, hb, others, hothers, rfl⟩

theorem outcome_each_ok {run : α → Trial β} {as : List α} {bs : List β} :
    (each run as).outcome = .ok bs ↔ List.Forall₂ (fun a b => (run a).outcome = .ok b) as bs := by
  induction as generalizing bs with
  | nil => cases bs <;> simp [each]
  | cons a rest ih => simp only [outcome_each_cons_ok, ih, List.forall₂_cons_left_iff]

/-- If the trial of each element ends well, so do all of them together. -/
theorem exists_outcome_each_ok {run : α → Trial β} {post : α → β → Prop} {as : List α}
    (h : ∀ a ∈ as, ∃ b, (run a).outcome = .ok b ∧ post a b) :
    ∃ bs, (each run as).outcome = .ok bs ∧ List.Forall₂ post as bs := by
  induction as with
  | nil => exact ⟨[], rfl, .nil⟩
  | cons a rest ih =>
      obtain ⟨⟨b, hb, hpost⟩, hrest⟩ := List.forall_mem_cons.1 h
      obtain ⟨bs, hbs, hposts⟩ := ih hrest
      exact ⟨b :: bs, outcome_each_cons_ok.2 ⟨b, bs, hb, hbs, rfl⟩, .cons hpost hposts⟩

/-- The rejection that ends a trial for each element is the rejection of one of them. -/
theorem exists_of_each_error {run : α → Trial β} {as : List α} {rejection : Rejection}
    (h : (each run as).outcome = .error rejection) :
    ∃ a ∈ as, (run a).outcome = .error rejection := by
  induction as with
  | nil => exact absurd h (by simp [outcome_each_nil])
  | cons a rest ih =>
      rw [each, outcome_bind_error] at h
      obtain ha | ⟨b, -, hrest⟩ := h
      · exact ⟨a, List.mem_cons_self, ha⟩
      · rw [outcome_bind_pure, map_eq_error] at hrest
        obtain ⟨other, hmem, hother⟩ := ih hrest
        exact ⟨other, List.mem_cons_of_mem a hmem, hother⟩

theorem each_map (f : β → γ) (run : α → Trial β) (as : List α) :
    each (fun a => f <$> run a) as = List.map f <$> each run as := by
  induction as with
  | nil => rfl
  | cons a rest ih => simp only [each, ih, bind_map_left, map_bind, map_pure, List.map_cons]

/-! ### What every result satisfies -/

/-- Whatever a trial ends well with satisfies a condition. -/
def Ensures (trial : Trial α) (post : α → Prop) : Prop := ∀ a, trial.outcome = .ok a → post a

theorem ensures_pure {post : α → Prop} {a : α} (h : post a) : (pure a : Trial α).Ensures post := by
  intro b hb
  obtain rfl := Except.ok.inj hb
  exact h

theorem ensures_reject (rejection : Rejection) (post : α → Prop) :
    (reject rejection : Trial α).Ensures post := by
  intro a ha
  cases ha

theorem Ensures.bind {first : Trial α} {next : α → Trial β} {mid : α → Prop} {post : β → Prop}
    (hfirst : first.Ensures mid) (hnext : ∀ a, mid a → (next a).Ensures post) :
    (first >>= next).Ensures post := by
  intro b hb
  obtain ⟨a, ha, hb⟩ := outcome_bind_ok.1 hb
  exact hnext a (hfirst a ha) b hb

/-- A step whose result does not matter to what the next ensures. -/
theorem ensures_bind {first : Trial α} {next : α → Trial β} {post : β → Prop}
    (hnext : ∀ a, (next a).Ensures post) : (first >>= next).Ensures post := by
  intro b hb
  obtain ⟨a, -, hb⟩ := outcome_bind_ok.1 hb
  exact hnext a b hb

theorem ensures_each {run : α → Trial β} {post : β → Prop} (h : ∀ a, (run a).Ensures post)
    (as : List α) : (each run as).Ensures fun bs => ∀ b ∈ bs, post b := by
  induction as with
  | nil =>
      refine ensures_pure ?_
      intro b hmem
      cases hmem
  | cons a rest ih =>
      refine (h a).bind ?_
      intro b hb
      refine ih.bind ?_
      intro bs hbs
      exact ensures_pure (List.forall_mem_cons.2 ⟨hb, hbs⟩)

/-! ### Trials that end alike -/

variable {δ : Type} {R : α → β → Prop} {S : γ → δ → Prop}

/-- Both trials end well, with related results, or both are rejected. -/
inductive EndAlike (R : α → β → Prop) (first : Trial α) (second : Trial β) : Prop
  | ok {a : α} {b : β} (hfirst : first.outcome = .ok a) (hsecond : second.outcome = .ok b)
      (h : R a b)
  | rejected {r s : Rejection} (hfirst : first.outcome = .error r)
      (hsecond : second.outcome = .error s)

namespace EndAlike

theorem pure {a : α} {b : β} (h : R a b) :
    EndAlike R (Pure.pure a : Trial α) (Pure.pure b : Trial β) := .ok rfl rfl h

theorem refl {R : α → α → Prop} (hR : ∀ a, R a a) (trial : Trial α) : EndAlike R trial trial := by
  cases h : trial.outcome with
  | ok a => exact .ok h h (hR a)
  | error rejection => exact .rejected h h

theorem bind {first : Trial α} {second : Trial β} {next : α → Trial γ} {last : β → Trial δ}
    (h : EndAlike R first second) (hnext : ∀ a b, R a b → EndAlike S (next a) (last b)) :
    EndAlike S (first >>= next) (second >>= last) := by
  cases h with
  | rejected hfirst hsecond =>
      exact .rejected (outcome_bind_of_error hfirst next) (outcome_bind_of_error hsecond last)
  | ok hfirst hsecond hR =>
      cases hnext _ _ hR with
      | ok hc hd h =>
          exact .ok ((outcome_bind_of_ok hfirst next).trans hc)
            ((outcome_bind_of_ok hsecond last).trans hd) h
      | rejected hc hd =>
          exact .rejected ((outcome_bind_of_ok hfirst next).trans hc)
            ((outcome_bind_of_ok hsecond last).trans hd)

/-- The same step before both. -/
theorem after {next : α → Trial γ} {last : α → Trial δ} (first : Trial α)
    (hnext : ∀ a, EndAlike S (next a) (last a)) :
    EndAlike S (first >>= next) (first >>= last) := by
  refine (refl (fun _ => rfl) first).bind ?_
  rintro a _ rfl
  exact hnext a

theorem trans {T : β → γ → Prop} {first : Trial α} {second : Trial β} {third : Trial γ}
    (h : EndAlike R first second) (h' : EndAlike T second third) :
    EndAlike (Relation.Comp R T) first third := by
  cases h with
  | ok ha hb hR =>
      cases h' with
      | ok hb' hc hT =>
          obtain rfl := Except.ok.inj (hb.symm.trans hb')
          exact .ok ha hc ⟨_, hR, hT⟩
      | rejected hb' hc => cases hb.symm.trans hb'
  | rejected ha hb =>
      cases h' with
      | ok hb' hc hT => cases hb.symm.trans hb'
      | rejected hb' hc => exact .rejected ha hc

theorem each_forall₂ {run : α → Trial γ} {run' : β → Trial δ} {as : List α} {bs : List β}
    (h : List.Forall₂ (fun a b => EndAlike S (run a) (run' b)) as bs) :
    EndAlike (List.Forall₂ S) (each run as) (each run' bs) := by
  induction h with
  | nil => exact .pure .nil
  | cons hab _ ih =>
      rw [each, each]
      exact hab.bind fun c d hcd => ih.bind fun cs ds hrest => .pure (.cons hcd hrest)

/-- A trial for each element does not depend on their order, but for the order of the results and
for which of several rejections comes first. -/
theorem each_perm {run : α → Trial γ} {as bs : List α} (h : as.Perm bs) :
    EndAlike List.Perm (each run as) (each run bs) := by
  have hok : ∀ {as bs : List α}, as.Perm bs → ∀ {cs}, (each run as).outcome = .ok cs →
      ∃ ds, (each run bs).outcome = .ok ds ∧ ds.Perm cs := by
    intro as bs h cs hcs
    obtain ⟨ds, hds, hperm⟩ := List.perm_comp_forall₂ h.symm (outcome_each_ok.1 hcs)
    exact ⟨ds, outcome_each_ok.2 hds, hperm⟩
  cases hfirst : (each run as).outcome with
  | ok cs =>
      obtain ⟨ds, hsecond, hperm⟩ := hok h hfirst
      exact .ok hfirst hsecond hperm.symm
  | error rejection =>
      cases hsecond : (each run bs).outcome with
      | error other => exact .rejected hfirst hsecond
      | ok ds =>
          -- had one order ended well, the other would have, too
          obtain ⟨cs, hcs, -⟩ := hok h.symm hsecond
          cases hfirst.symm.trans hcs

end EndAlike

end Trial

end Verdict
