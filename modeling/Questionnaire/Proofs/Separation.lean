import Questionnaire.Proofs.History
import Questionnaire.Proofs.ObjectPaths
import Questionnaire.Session.Script
/-!
# Questions whose ids are apart

When no question's id is, segment by segment, a prefix of another's, the answers never get in
each other's way. In a run started from empty answers every answer sits at its own id, below
objects that the writes created, and nothing else is in the answers. So at every point of the
run each question's id reads the last answer stored for it, or nothing before the first, and no
write replaces a value on its way: the warning for a replaced intermediate is never logged.

`Tracks qs H g` is the invariant after the history `H`; `Tracks.store` is one write and
`History.tracks` a whole history. `answers_stay_at_ids` is the theorem for whole runs.
-/

namespace Questionnaire

open Session Value

/-- Neither question's id is, segment by segment, a prefix of the other's or equal to it. -/
def Question.Apart (a b : Question) : Prop :=
  ¬ Path.segments a.id <+: Path.segments b.id ∧ ¬ Path.segments b.id <+: Path.segments a.id

instance : DecidableRel Question.Apart := fun a b =>
  inferInstanceAs (Decidable (¬ Path.segments a.id <+: Path.segments b.id ∧
    ¬ Path.segments b.id <+: Path.segments a.id))

theorem Question.Apart.symm {a b : Question} (h : a.Apart b) : b.Apart a := ⟨h.2, h.1⟩

/-- Two questions of a list whose ids are pairwise apart are one question, or apart. -/
theorem Question.eq_or_apart {qs : List Question} (hqs : qs.Pairwise Question.Apart)
    {a b : Question} (ha : a ∈ qs) (hb : b ∈ qs) : a = b ∨ a.Apart b := by
  induction qs with
  | nil => cases ha
  | cons c qs ih =>
    rw [List.pairwise_cons] at hqs
    rcases List.mem_cons.1 ha with rfl | ha' <;> rcases List.mem_cons.1 hb with rfl | hb'
    · exact .inl rfl
    · exact .inr (hqs.1 b hb')
    · exact .inr (hqs.1 a ha').symm
    · exact ih hqs.2 ha' hb'

/-- The answer last stored for `id` in a history, if any. -/
def lastAnswer (H : List (Question × Value)) (id : String) : Option Value :=
  (H.reverse.find? fun e => e.1.id == id).map (·.2)

theorem lastAnswer_append_singleton (H : List (Question × Value)) (q : Question) (x : Value)
    (id : String) :
    lastAnswer (H ++ [(q, x)]) id = if q.id = id then some x else lastAnswer H id := by
  by_cases h : q.id = id <;> simp [lastAnswer, h]

/-- The answers `g` after the history `H`: the way to every question's id is open, and at its
end is the last answer `H` stores for the question. -/
structure Tracks (qs : List Question) (H : List (Question × Value)) (g : Value) : Prop where
  open_way : ∀ q ∈ qs, g.OpenAlong (Path.segments q.id)
  last : ∀ q ∈ qs, g.atKeys (Path.segments q.id) = lastAnswer H q.id

variable {qs : List Question} {H : List (Question × Value)} {g : Value} {q : Question}

theorem tracks_empty (qs : List Question) : Tracks qs [] (.obj []) := by
  refine ⟨fun q _ => openAlong_empty _, fun q _ => ?_⟩
  obtain ⟨k, ks, hks⟩ := List.exists_cons_of_ne_nil (Path.segments_ne_nil q.id)
  rw [hks]
  rfl

/-- Every question's id reads the last answer stored for it. -/
theorem Tracks.lookup (h : Tracks qs H g) (hq : q ∈ qs) :
    g.lookup q.id = .ok (lastAnswer H q.id) := by
  rw [Value.lookup, lookupSegs_of_openAlong (h.open_way q hq), h.last q hq]

/-- A write at a question's id replaces nothing. -/
theorem Tracks.setAt (h : Tracks qs H g) (hq : q ∈ qs) (x : Value) :
    ∃ g', g.setAt q.id x = .ok (g', []) ∧ WrittenAlong g (Path.segments q.id) x g' :=
  setSegs_of_openAlong x (Path.segments_ne_nil q.id) (h.open_way q hq)

/-- **One write keeps the invariant.** Storing an answer to a question of `qs` replaces nothing,
and afterwards every question's id still reads its last answer. -/
theorem Tracks.store (hqs : qs.Pairwise Question.Apart) (h : Tracks qs H g) (hq : q ∈ qs)
    {x g₁ : Value} {reps : List Replaced} (hset : g.setAt q.id x = .ok (g₁, reps)) :
    reps = [] ∧ Tracks qs (H ++ [(q, x)]) g₁ := by
  obtain ⟨g', hset', hw⟩ := h.setAt hq x
  rw [hset'] at hset
  obtain ⟨rfl, rfl⟩ := Prod.mk.inj (Except.ok.inj hset)
  refine ⟨rfl, fun q' hq' => ?_, fun q' hq' => ?_⟩
  · intro P hP hne
    rcases Question.eq_or_apart hqs hq hq' with rfl | hap
    · -- the way just written is made of objects
      exact .inr (hw.on_way P hP hne)
    · -- another question's way: it meets the new way only before the end of both
      by_cases h₁ : P <+: Path.segments q.id
      · by_cases h₂ : P = Path.segments q.id
        · exact absurd (h₂ ▸ hP) hap.1
        · exact .inr (hw.on_way P h₁ h₂)
      · have h₂ : ¬ Path.segments q.id <+: P := fun e => hap.1 (e.trans hP)
        rw [hw.apart P h₁ h₂]
        exact h.open_way q' hq' P hP hne
  · rw [lastAnswer_append_singleton]
    rcases Question.eq_or_apart hqs hq hq' with rfl | hap
    · rw [if_pos rfl]
      exact hw.at_end
    · have hid : q.id ≠ q'.id := fun e => hap.1 (e ▸ List.prefix_refl _)
      rw [if_neg hid, hw.apart _ hap.2 hap.1]
      exact h.last q' hq'

/-- A history of `qs` keeps the invariant. -/
theorem History.tracks (hqs : qs.Pairwise Question.Apart) {H' : List (Question × Value)}
    {g' : Value} (h : History qs g H' g') : ∀ {H}, Tracks qs H g → Tracks qs (H ++ H') g' := by
  induction h with
  | nil g =>
    intro H ht
    rwa [List.append_nil]
  | cons hq _ hset _ ih =>
    intro H ht
    rw [List.append_cons]
    exact ih (ht.store hqs hq hset).2

/-- **Answers to questions whose ids are apart stay at their ids.** For every questionnaire whose
ids are pairwise apart, every respondent, validator and limit, a run started from empty answers,
returning or halting, splits at every point, after the answers `H₁` stored so far and before the
answers `H₂` stored later, at answers `g` reached from the empty object by `H₁` and leading to the
end by `H₂`. At `g` every question's id reads the last answer `H₁` stores for it (nothing when
there is none), and the next write replaces no value on its way. -/
theorem answers_stay_at_ids {σ : Type} (qs : List Question) (hqs : qs.Pairwise Question.Apart)
    (r : Respondent σ) (v : Validator) (limit : Value) (ρ : σ) (H₁ H₂ : List (Question × Value))
    (hsplit : (Step.finalSession (EStateM.run (Step.run r qs v limit)
      ({ answers := .obj [], respondent := ρ } : Session σ))).answered.toList = H₁ ++ H₂) :
    ∃ g, History qs (.obj []) H₁ g ∧
      History qs g H₂ (Step.finalSession (EStateM.run (Step.run r qs v limit)
        ({ answers := .obj [], respondent := ρ } : Session σ))).answers ∧
      (∀ q ∈ qs, g.lookup q.id = .ok (lastAnswer H₁ q.id)) ∧
      ∀ q x H₃, H₂ = (q, x) :: H₃ → ∃ g', g.setAt q.id x = .ok (g', []) := by
  obtain ⟨g, h₁, h₂⟩ := Step.history_split_of_run r qs v limit ρ hsplit
  have ht : Tracks qs H₁ g := by simpa using h₁.tracks hqs (tracks_empty qs)
  refine ⟨g, h₁, h₂, fun q hq => ht.lookup hq, fun q x H₃ hH₂ => ?_⟩
  subst hH₂
  cases h₂ with
  | cons hq _ _ _ =>
    obtain ⟨g', hset, -⟩ := ht.setAt hq x
    exact ⟨g', hset⟩

/-- The run of two questions `name` and `project.title`, whose ids are apart, split before its
first stored answer. -/
theorem answers_stay_at_ids_scripted :
    let qs : List Question := [{ id := "name", label := "Name", kind := .text },
      { id := "project.title", label := "Title", kind := .text }]
    let ρ : Script :=
      { queues := [("name", [.str "Ada"]), ("project.title", [.str "Engine"])], maxAsks := 10 }
    let t := Step.finalSession (EStateM.run (Step.run Script.respondent qs ⟨fun _ _ => ([], [])⟩
      (.int 3)) ({ answers := .obj [], respondent := ρ } : Session Script))
    qs.Pairwise Question.Apart ∧ t.answered.toList = [] ++ t.answered.toList ∧
      ∃ g, History qs (.obj []) [] g ∧ History qs g t.answered.toList t.answers ∧
        (∀ q ∈ qs, g.lookup q.id = .ok (lastAnswer [] q.id)) ∧
        ∀ q x H₃, t.answered.toList = (q, x) :: H₃ → ∃ g', g.setAt q.id x = .ok (g', []) :=
  ⟨by decide +kernel, (List.nil_append _).symm,
    answers_stay_at_ids _ (by decide +kernel) _ _ _ _ [] _ (List.nil_append _).symm⟩

end Questionnaire
