import Masquerade.Lib.Run
import Mathlib.Tactic

/-! Runs over a list of inputs: the outputs they leave behind, and the runs of a specification that
they follow. -/

namespace Masquerade.Lib

variable {σ τ ι α : Type}

def run (step : σ → ι → Option σ) (s : σ) : List ι → Option σ
  | [] => some s
  | i :: is => (step s i).bind fun t => run step t is

section Run

variable {step : σ → ι → Option σ} {s t u : σ} {is js : List ι}

@[simp] lemma run_nil : run step s [] = some s := rfl

lemma run_cons {i : ι} : run step s (i :: is) = some u ↔ ∃ t, step s i = some t ∧
    run step t is = some u :=
  Option.bind_eq_some_iff

lemma run_append : run step s (is ++ js) = some u ↔ ∃ t, run step s is = some t ∧
    run step t js = some u := by
  induction is generalizing s with
  | nil => simp
  | cons i is ih =>
    rw [List.cons_append, run_cons]
    constructor
    · rintro ⟨t, ht, hu⟩
      obtain ⟨v, hv, hrest⟩ := ih.mp hu
      exact ⟨v, run_cons.mpr ⟨t, ht, hv⟩, hrest⟩
    · rintro ⟨v, hv, hrest⟩
      obtain ⟨t, ht, htv⟩ := run_cons.mp hv
      exact ⟨t, ht, ih.mpr ⟨v, htv, hrest⟩⟩

lemma run_single {i : ι} : run step s [i] = step s i := by
  simp only [run]
  cases step s i <;> rfl

lemma run_invariant {P : σ → Prop} (hstep : ∀ s i t, P s → step s i = some t → P t) (hs : P s)
    (h : run step s is = some t) : P t := by
  induction is generalizing s with
  | nil => rwa [← Option.some.inj h]
  | cons i is ih =>
    obtain ⟨u, hu, hrest⟩ := run_cons.mp h
    exact ih (hstep s i u hs hu) hrest

lemma run_collects {P : List α → σ → Prop} {observe : ι → List α}
    (hstep : ∀ seen s i t, P seen s → step s i = some t → P (seen ++ observe i) t) {seen : List α}
    (hs : P seen s) (h : run step s is = some t) : P (seen ++ is.flatMap observe) t := by
  induction is generalizing s seen with
  | nil => simpa [← Option.some.inj h] using hs
  | cons i is ih =>
    obtain ⟨u, hu, hrest⟩ := run_cons.mp h
    have hrec := ih (hstep seen s i u hs hu) hrest
    rwa [List.append_assoc] at hrec

def Occurs (step : σ → ι → Option σ) (kind : σ → ι → Prop) (s : σ) (is : List ι) : Prop :=
  ∃ before i after t, is = before ++ i :: after ∧ run step s before = some t ∧ kind t i

lemma occurs_cons {kind : σ → ι → Prop} {i : ι} (h : step s i = some u) :
    Occurs step kind s (i :: is) ↔ kind s i ∨ Occurs step kind u is := by
  constructor
  · rintro ⟨before, j, after, t, heq, hrun, hkind⟩
    cases before with
    | nil =>
      obtain ⟨rfl, rfl⟩ := List.cons.inj heq
      obtain rfl := Option.some.inj hrun
      exact .inl hkind
    | cons j' before =>
      obtain ⟨rfl, rfl⟩ := List.cons.inj heq
      obtain ⟨v, hv, hrest⟩ := run_cons.mp hrun
      obtain rfl := Option.some.inj (h.symm.trans hv)
      exact .inr ⟨before, j, after, t, rfl, hrest, hkind⟩
  · rintro (hkind | ⟨before, j, after, t, rfl, hrun, hkind⟩)
    · exact ⟨[], i, is, s, rfl, rfl, hkind⟩
    · exact ⟨i :: before, j, after, t, rfl, run_cons.mpr ⟨u, h, hrun⟩, hkind⟩

lemma occurs_append {kind : σ → ι → Prop} (h : run step s is = some t) :
    Occurs step kind s (is ++ js) ↔ Occurs step kind s is ∨ Occurs step kind t js := by
  induction is generalizing s with
  | nil =>
    obtain rfl := Option.some.inj h
    simp [Occurs]
  | cons i is ih =>
    obtain ⟨u, hu, hrest⟩ := run_cons.mp h
    rw [List.cons_append, occurs_cons hu, occurs_cons hu, ih hrest, or_assoc]

lemma run_of_reaches {allowed : σ → ι → Prop} (h : Reaches step allowed s t) :
    ∃ is, run step s is = some t ∧ ¬ Occurs step (fun s i => ¬ allowed s i) s is := by
  induction h with
  | refl => exact ⟨[], rfl, by simp [Occurs]⟩
  | next i _ hi ht ih =>
    obtain ⟨is, his, hallowed⟩ := ih
    refine ⟨is ++ [i], run_append.mpr ⟨_, his, run_single.trans ht⟩, ?_⟩
    rw [occurs_append his, occurs_cons ht, not_or, not_or, not_not]
    exact ⟨hallowed, hi, by simp [Occurs]⟩

lemma occurs_mem {fatal : ι → Prop} (h : run step s is = some t) :
    Occurs step (fun _ => fatal) s is ↔ ∃ i ∈ is, fatal i := by
  induction is generalizing s with
  | nil => simp [Occurs]
  | cons i is ih =>
    obtain ⟨u, hu, hrest⟩ := run_cons.mp h
    rw [occurs_cons hu, ih hrest, List.exists_mem_cons_iff]

lemma run_reaches_iff {I P : σ → Prop} {kind : σ → ι → Prop}
    (hkeeps : ∀ s i t, I s → step s i = some t → I t)
    (hstep : ∀ s i t, I s → step s i = some t → (P t ↔ P s ∨ kind s i)) (hs : I s)
    (h : run step s is = some t) :
    P t ↔ P s ∨ Occurs step kind s is := by
  induction is generalizing s with
  | nil =>
    obtain rfl := Option.some.inj h
    simp [Occurs]
  | cons i is ih =>
    obtain ⟨u, hu, hrest⟩ := run_cons.mp h
    rw [occurs_cons hu, ih (hkeeps s i u hs hu) hrest, hstep s i u hs hu, or_assoc]

end Run

structure Logs (step : σ → ι → Option σ) (P : σ → Prop) (log : σ → List α)
    (effect : ι → List α) : Prop where
  keeps : ∀ s i t, P s → step s i = some t → P t
  adds : ∀ s i t, P s → step s i = some t → log t = log s ++ effect i

namespace Logs

variable {step : σ → ι → Option σ} {P : σ → Prop} {log : σ → List α} {effect : ι → List α}
  {s t : σ} {is : List ι}

lemma run (h : Logs step P log effect) (hs : P s) (hrun : run step s is = some t) :
    log t = log s ++ is.flatMap effect := by
  induction is generalizing s with
  | nil => rw [← Option.some.inj hrun, List.flatMap_nil, List.append_nil]
  | cons i is ih =>
    obtain ⟨u, hu, hrest⟩ := run_cons.mp hrun
    rw [ih (h.keeps s i u hs hu) hrest, h.adds s i u hs hu, List.flatMap_cons, List.append_assoc]

lemma source (h : Logs step P log effect) (hs : P s) (hempty : log s = [])
    (hrun : Lib.run step s is = some t) {a : α} (ha : a ∈ log t) : ∃ i ∈ is, a ∈ effect i := by
  rw [h.run hs hrun, hempty, List.nil_append] at ha
  exact List.mem_flatMap.mp ha

lemma weighed (h : Logs step P log effect) (hs : P s) (hempty : log s = [])
    (hrun : Lib.run step s is = some t) {a b : ℕ} {out : α → ℕ} {size : ι → ℕ}
    (hbound : ∀ i, a * ((effect i).map out).sum ≤ b * size i) :
    a * ((log t).map out).sum ≤ b * (is.map size).sum := by
  rw [h.run hs hrun, hempty, List.nil_append]
  clear hrun
  induction is with
  | nil => simp
  | cons i is ih =>
    have hi := hbound i
    simp only [List.flatMap_cons, List.map_append, List.sum_append, List.map_cons,
      List.sum_cons, Nat.mul_add]
    omega

end Logs

def recording (step : σ → ι → Option σ) (s : σ × List ι) (i : ι) : Option (σ × List ι) :=
  (step s.1 i).map fun t => (t, s.2 ++ [i])

lemma run_recording {step : σ → ι → Option σ} {s t : σ} {is : List ι} (h : run step s is = some t)
    (before : List ι) :
    run (recording step) (s, before) is = some (t, before ++ is) := by
  induction is generalizing s before with
  | nil => simpa using h
  | cons i is ih =>
    obtain ⟨u, hu, hrest⟩ := run_cons.mp h
    refine run_cons.mpr ⟨(u, before ++ [i]), by rw [recording, hu, Option.map_some], ?_⟩
    simpa using ih hrest (before ++ [i])

section Share

variable (step : σ → ι → Option σ) (concerns : σ → ι → Bool)

def share : σ → List ι → List ι
  | _, [] => []
  | s, i :: is => (if concerns s i then [i] else []) ++ (step s i).elim [] fun t => share t is

structure Unwinds (step' : τ → ι → Option τ) (allowed : ι → Prop) (R : σ → τ → Prop) : Prop where
  consistent : ∀ s i t a, R s a → allowed i → concerns s i = true → step s i = some t →
    ∃ b, step' a i = some b ∧ R t b
  respects : ∀ s i t a, R s a → allowed i → concerns s i = false → step s i = some t → R t a

variable {step concerns}

lemma Unwinds.run {step' : τ → ι → Option τ} {allowed : ι → Prop} {R : σ → τ → Prop}
    {s t : σ} {a : τ} {is : List ι} (h : Unwinds step concerns step' allowed R)
    (hs : R s a) (hallowed : ∀ i ∈ is, allowed i) (hrun : Lib.run step s is = some t) :
    ∃ b, Lib.run step' a (share step concerns s is) = some b ∧ R t b := by
  induction is generalizing s a with
  | nil => exact ⟨a, rfl, by rwa [← Option.some.inj hrun]⟩
  | cons i is ih =>
    obtain ⟨u, hu, hrest⟩ := run_cons.mp hrun
    have hi := hallowed i List.mem_cons_self
    have his : ∀ i ∈ is, allowed i := fun j hj => hallowed j (List.mem_cons_of_mem _ hj)
    simp only [share, hu, Option.elim_some]
    cases hc : concerns s i with
    | true =>
      obtain ⟨b, hb, hub⟩ := h.consistent s i u a hs hi hc hu
      obtain ⟨c, hrunc, htc⟩ := ih hub his hrest
      exact ⟨c, run_cons.mpr ⟨b, hb, hrunc⟩, htc⟩
    | false => exact ih (h.respects s i u a hs hi hc hu) his hrest

end Share

section Label

variable (step : σ → ι → Option σ) (label : σ → ι → Option α)

def observed : σ → List ι → List α
  | _, [] => []
  | s, i :: is => (label s i).toList ++ (step s i).elim [] fun t => observed t is

inductive Path (spec : τ → Option α → τ → Prop) (a : τ) : List α → τ → Prop
  | refl : Path spec a [] a
  | next {b c : τ} {seen : List α} (l : Option α) : Path spec a seen b → spec b l c →
      Path spec a (seen ++ l.toList) c

/-- Each step that is allowed is matched by steps of the specification in which the same is seen. -/
def Simulates (allowed : σ → ι → Prop) (spec : τ → Option α → τ → Prop) (R : σ → τ → Prop) : Prop :=
  ∀ s i t a, R s a → allowed s i → step s i = some t → ∃ b, Path spec a (label s i).toList b ∧ R t b

variable {step label} {spec : τ → Option α → τ → Prop} {a b c : τ} {seen seen' : List α}

lemma Path.append (h : Path spec a seen b) (h' : Path spec b seen' c) :
    Path spec a (seen ++ seen') c := by
  induction h' with
  | refl => rwa [List.append_nil]
  | next l _ hstep ih =>
    rw [← List.append_assoc]
    exact ih.next l hstep

lemma Path.single (l : Option α) (h : spec a l b) : Path spec a l.toList b := Path.refl.next l h

lemma Simulates.run {allowed : σ → ι → Prop} {R : σ → τ → Prop} {s t : σ}
    {is : List ι} (h : Simulates step label allowed spec R) (hs : R s a)
    (hallowed : ¬ Occurs step (fun s i => ¬ allowed s i) s is) (hrun : run step s is = some t) :
    ∃ b, Path spec a (observed step label s is) b ∧ R t b := by
  induction is generalizing s a with
  | nil => exact ⟨a, .refl, by rwa [← Option.some.inj hrun]⟩
  | cons i is ih =>
    obtain ⟨u, hu, hrest⟩ := run_cons.mp hrun
    rw [occurs_cons hu, not_or, not_not] at hallowed
    obtain ⟨b, hab, hub⟩ := h s i u a hs hallowed.1 hu
    obtain ⟨c, hbc, htc⟩ := ih hub hallowed.2 hrest
    refine ⟨c, ?_, htc⟩
    simp only [observed, hu, Option.elim_some]
    exact hab.append hbc

end Label

end Masquerade.Lib
