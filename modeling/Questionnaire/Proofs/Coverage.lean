import Questionnaire.Proofs.History
import Questionnaire.Proofs.Locations
import Questionnaire.Session.Script
/-!
# What a condition can see

A run starts from empty answers and changes them only by storing answers. Every location in the
answers other than the root is therefore at or inside a location where an answer was stored, or
holds a container on the way to one (`Covered`), whatever the ids: duplicates and ids that are
prefixes of others included.

A condition compares the value at its path with a literal, and a missing, null or container
value never compares equal. So a question whose condition is a comparison is asked only when its
path reaches a value at or inside an answer stored before it (`conditions_read_stored_answers`):
a condition on a question not asked yet, or on a mere prefix of answered ids, reads as absent
and the question is skipped, and a skipped question stores nothing.
-/

namespace Questionnaire

open Schema Value

variable {qs : List Question} {g g₁ g' x : Value} {H : List (Question × Value)}
  {S : List (List Part)} {s : List Part}

/-- The locations `S` where the answers of `H` were written on the way from `g` to `g'`, one per
answer, in order. -/
inductive WrittenIn : Value → List (Question × Value) → List (List Part) → Value → Prop
  | nil (g : Value) : WrittenIn g [] [] g
  | cons {g x g₁ g' : Value} {s : List Part} {q : Question} {H : List (Question × Value)}
      {S : List (List Part)} :
      WrittenAt g s x g₁ → WrittenIn g₁ H S g' → WrittenIn g ((q, x) :: H) (s :: S) g'

/-- Every answer of a history was written at some location. -/
theorem History.writtenIn (h : History qs g H g') : ∃ S, WrittenIn g H S g' := by
  induction h with
  | nil g => exact ⟨[], .nil g⟩
  | cons _ _ hset _ ih =>
    obtain ⟨S, hS⟩ := ih
    obtain ⟨s, -, hw⟩ := setSegs_writtenAt hset
    exact ⟨s :: S, .cons hw hS⟩

/-- Every location other than the root is at or inside a location of `S`, or holds a container on
the way to one. -/
def Covered (S : List (List Part)) (g : Value) : Prop :=
  ∀ ℓ v, ℓ ≠ [] → atLoc g ℓ = some v →
    (∃ s ∈ S, s <+: ℓ) ∨ (v.isContainer = true ∧ ∃ s ∈ S, ℓ <+: s)

/-- Empty answers hold nothing below the root. -/
theorem covered_empty : Covered [] (.obj []) := by
  intro ℓ v hℓ hat
  obtain ⟨p, ℓ, rfl⟩ := List.exists_cons_of_ne_nil hℓ
  cases p <;> cases hat

/-- **One write keeps the invariant**, with its location added. -/
theorem Covered.write (hc : Covered S g) (hw : WrittenAt g s x g₁) : Covered (S ++ [s]) g₁ := by
  intro ℓ v hℓ hat
  by_cases h₁ : s <+: ℓ
  · exact .inl ⟨s, List.mem_append_right _ (List.mem_singleton_self s), h₁⟩
  · by_cases h₂ : ℓ <+: s
    · -- before the end of the new way: a container
      have hne : ℓ ≠ s := fun e => h₁ (e ▸ List.prefix_refl ℓ)
      obtain ⟨w, hw', hcont⟩ := hw.on_way ℓ h₂ hne
      rw [hat] at hw'
      cases hw'
      exact .inr ⟨hcont, s, List.mem_append_right _ (List.mem_singleton_self s), h₂⟩
    · -- off the new way: as it was, or gone
      rcases hw.off_way ℓ h₂ h₁ with h | h
      · rw [hat] at h
        cases h
      · rw [hat] at h
        rcases hc ℓ v hℓ h.symm with ⟨s', hs', hp⟩ | ⟨hcont, s', hs', hp⟩
        · exact .inl ⟨s', List.mem_append_left _ hs', hp⟩
        · exact .inr ⟨hcont, s', List.mem_append_left _ hs', hp⟩

/-- Writes one after another keep the invariant, with their locations added. -/
theorem WrittenIn.covered (h : WrittenIn g H S g') :
    ∀ {S₀ : List (List Part)}, Covered S₀ g → Covered (S₀ ++ S) g' := by
  induction h with
  | nil g =>
    intro S₀ hc
    rwa [List.append_nil]
  | cons hw _ ih =>
    intro S₀ hc
    rw [List.append_cons]
    exact ih (hc.write hw)

/-! ## Conditions -/

/-- A container is strictly equal to nothing. -/
theorem strictEq_of_container {v : Value} (hv : v.isContainer = true) (w : Value) :
    v.strictEq w = false := by
  cases v <;> cases hv <;> cases w <;> rfl

/-- The test a comparison makes of the value read at `L` holds only for a present value that is
neither null nor, when the test fails on every container, a container. -/
theorem present_of_test {g : Value} {L : String} {f : Value → Bool}
    (hf : ∀ v, v.isContainer = true → f v = false)
    (h : (g.lookup L).map (fun o => match o with
      | none | some .null => false
      | some v => f v) = .ok true) :
    ∃ v, g.lookup L = .ok (some v) ∧ v.isContainer = false := by
  cases hl : g.lookup L with
  | error e =>
    rw [hl] at h
    cases h
  | ok o =>
    rw [hl] at h
    cases o with
    | none => cases h
    | some v =>
      refine ⟨v, rfl, ?_⟩
      cases hc : v.isContainer
      · rfl
      · -- a container fails the test, which held
        cases v with
        | null => cases h
        | _ =>
          have := hf _ hc
          simp only [Except.map, Except.ok.injEq] at h
          rw [this] at h
          cases h

/-- A comparison holds only for a present value that is neither null nor a container. -/
theorem lookup_of_comparison {text L : String} {g : Value}
    (hparse : (∃ r, Condition.parse text = .equals L r) ∨
      (∃ items, Condition.parse text = .oneOf L items))
    (hact : isActive (some text) g = .ok true) :
    ∃ v, g.lookup L = .ok (some v) ∧ v.isContainer = false := by
  simp only [isActive] at hact
  rcases hparse with ⟨r, hp⟩ | ⟨items, hp⟩
  · rw [hp] at hact
    exact present_of_test (fun v hv => strictEq_of_container hv r) hact
  · rw [hp] at hact
    exact present_of_test (fun v hv => by simp [strictEq_of_container hv]) hact

/-- **A comparison that holds reads a stored answer.** When the answers are covered by `S` and a
condition comparing the value at `L` holds, the value there is present and the read of `L`
reaches a location at or inside a location of `S`. -/
theorem Covered.read_of_active (hc : Covered S g) {text L : String}
    (hparse : (∃ r, Condition.parse text = .equals L r) ∨
      (∃ items, Condition.parse text = .oneOf L items))
    (hact : isActive (some text) g = .ok true) :
    ∃ ℓ w, g.lookup L = .ok (some w) ∧ readLoc g (Path.segments L) = some (ℓ, w) ∧
      ∃ s ∈ S, s <+: ℓ := by
  obtain ⟨w, hlook, hw⟩ := lookup_of_comparison hparse hact
  obtain ⟨ℓ, hread⟩ := lookupSegs_eq_some hlook
  obtain ⟨hat, hlen⟩ := atLoc_readLoc hread
  have hℓ : ℓ ≠ [] := by
    rintro rfl
    exact Path.segments_ne_nil L (List.length_eq_zero_iff.1 hlen.symm)
  refine ⟨ℓ, w, hlook, hread, ?_⟩
  rcases hc ℓ w hℓ hat with h | ⟨hcont, -⟩
  · exact h
  · rw [hw] at hcont
    cases hcont

/-! ## Whole runs -/

/-- **A condition reads only stored answers.** For every questionnaire, duplicate ids and ids that
are prefixes of others included, every respondent, validator and limit, a run started from empty
answers, returning or halting, splits at every point, after the answers `H₁` stored so far and
before the answers `H₂` stored later, at answers `g` that `H₁` wrote at the locations `S`. Every
location of `g` but the root is at or inside one of `S`, or holds a container on the way to one.
When the next answer stored is for a question whose condition compares the value at `L`, that
value is present, and the location the read of `L` reaches is at or inside one of `S`. -/
theorem conditions_read_stored_answers {σ : Type} (qs : List Question) (r : Respondent σ)
    (v : Validator) (limit : Value) (ρ : σ) (H₁ H₂ : List (Question × Value))
    (hsplit : (Step.finalSession (EStateM.run (Step.run r qs v limit)
      ({ answers := .obj [], respondent := ρ } : Session σ))).answered.toList = H₁ ++ H₂) :
    ∃ g S, History qs (.obj []) H₁ g ∧ WrittenIn (.obj []) H₁ S g ∧ Covered S g ∧
      History qs g H₂ (Step.finalSession (EStateM.run (Step.run r qs v limit)
        ({ answers := .obj [], respondent := ρ } : Session σ))).answers ∧
      ∀ q x H₃, H₂ = (q, x) :: H₃ → ∀ text L, q.dependsOn = some text →
        ((∃ lit, Condition.parse text = .equals L lit) ∨
          (∃ items, Condition.parse text = .oneOf L items)) →
        ∃ ℓ w, g.lookup L = .ok (some w) ∧ readLoc g (Path.segments L) = some (ℓ, w) ∧
          ∃ s ∈ S, s <+: ℓ := by
  obtain ⟨g, h₁, h₂⟩ := Step.history_split_of_run r qs v limit ρ hsplit
  obtain ⟨S, hS⟩ := h₁.writtenIn
  have hc : Covered S g := by simpa using hS.covered covered_empty
  refine ⟨g, S, h₁, hS, hc, h₂, fun q x H₃ hH₂ text L hdep hparse => ?_⟩
  subst hH₂
  -- the next answer is stored only when its question is active at `g`
  cases h₂ with
  | cons _ hact _ _ =>
    rw [hdep] at hact
    exact hc.read_of_active hparse hact

/-- The run of a question `team` that depends on the later question `lead`, split before its first
stored answer. -/
theorem conditions_read_stored_answers_scripted :
    let team : Question :=
      { id := "team", label := "Team", kind := .text, dependsOn := some "lead == 'yes'" }
    let qs : List Question := [team, { id := "lead", label := "Lead", kind := .text }]
    let ρ : Script :=
      { queues := [("team", [.str "core"]), ("lead", [.str "yes"])], maxAsks := 10 }
    let t := Step.finalSession (EStateM.run (Step.run Script.respondent qs ⟨fun _ _ => ([], [])⟩
      (.int 3)) ({ answers := .obj [], respondent := ρ } : Session Script))
    t.answered.toList = [] ++ t.answered.toList ∧
      ∃ g S, History qs (.obj []) [] g ∧ WrittenIn (.obj []) [] S g ∧ Covered S g ∧
        History qs g t.answered.toList t.answers ∧
        ∀ q x H₃, t.answered.toList = (q, x) :: H₃ → ∀ text L, q.dependsOn = some text →
          ((∃ lit, Condition.parse text = .equals L lit) ∨
            (∃ items, Condition.parse text = .oneOf L items)) →
          ∃ ℓ w, g.lookup L = .ok (some w) ∧ readLoc g (Path.segments L) = some (ℓ, w) ∧
            ∃ s ∈ S, s <+: ℓ :=
  ⟨(List.nil_append _).symm,
    conditions_read_stored_answers _ _ _ _ _ [] _ (List.nil_append _).symm⟩

end Questionnaire
