import TaxGateway.Foundations.Php

/-!
Contract: what `array_merge` does to keys and values.

Owns:
- assigning a text key: the keys it leaves, and the values under every key;
- the keys of a merged array: each once, the integers from zero in order;
- the values found under text keys and under integer keys;
- that arrays of distinct text keys are put one behind the other;
- the integer keys that keep their values, and that merging the same entries again
  changes nothing.

Does not own: arrays in which a key is repeated, which PHP has not.
-/

namespace TaxGateway.Php.Value

/-! ## Assigning -/

section Assign

variable {entries : Entries} {key : String} {value : Value}

/-- A key that is there stays in its place, a new one comes last. -/
theorem keys_assignKey (entries : Entries) (key : String) (value : Value) :
    (assignKey entries key value).map Prod.fst =
      if .str key ∈ entries.map Prod.fst then entries.map Prod.fst
      else entries.map Prod.fst ++ [.str key] := by
  induction entries with
  | nil => rfl
  | cons entry rest inductionHypothesis =>
      by_cases same : entry.1 = .str key
      · simp [assignKey, same]
      · have different : ¬ Key.str key = entry.1 := fun equal => same equal.symm
        simp only [assignKey, if_neg same, List.map_cons, inductionHypothesis, List.mem_cons,
          different, false_or]
        split <;> rfl

theorem lookup_assignKey_self (entries : Entries) (key : String) (value : Value) :
    (assignKey entries key value).lookup (.str key) = some value := by
  induction entries with
  | nil => simp [assignKey]
  | cons entry rest inductionHypothesis =>
      obtain ⟨name, given⟩ := entry
      by_cases same : name = .str key
      · simp [assignKey, same]
      · have different : (Key.str key == name) = false := by
          simpa using fun equal => same (Eq.symm equal)
        simp [assignKey, same, List.lookup_cons, different, inductionHypothesis]

theorem lookup_assignKey_of_ne {other : Key} (different : other ≠ .str key) :
    (assignKey entries key value).lookup other = entries.lookup other := by
  have isOther : (other == Key.str key) = false := by simpa using different
  induction entries with
  | nil => simp [assignKey, List.lookup_cons, isOther]
  | cons entry rest inductionHypothesis =>
      obtain ⟨name, given⟩ := entry
      by_cases same : name = .str key
      · subst same
        simp [assignKey, List.lookup_cons, isOther]
      · simp only [assignKey, if_neg same, List.lookup_cons, inductionHypothesis]

/-- Assigning what a key holds already changes nothing. -/
theorem assignKey_eq_self (found : entries.lookup (.str key) = some value) :
    assignKey entries key value = entries := by
  induction entries with
  | nil => cases found
  | cons entry rest inductionHypothesis =>
      obtain ⟨name, given⟩ := entry
      rw [List.lookup_cons] at found
      by_cases same : name = .str key
      · subst same
        simp only [beq_self_eq_true, Option.some.injEq] at found
        simp [assignKey, found]
      · have different : (Key.str key == name) = false := by
          simpa using fun equal => same (Eq.symm equal)
        rw [different] at found
        simp [assignKey, same, inductionHypothesis found]

end Assign

/-! ## Integer keys -/

/-- The values under integer keys, in order. -/
def integerValues (entries : Entries) : List Value :=
  entries.filterMap fun entry =>
    match entry.1 with
    | .int _ => some entry.2
    | .str _ => none

@[simp] theorem integerValues_nil : integerValues [] = [] := rfl

@[simp] theorem integerValues_int (n : Int) (value : Value) (rest : Entries) :
    integerValues ((.int n, value) :: rest) = value :: integerValues rest := rfl

@[simp] theorem integerValues_str (key : String) (value : Value) (rest : Entries) :
    integerValues ((.str key, value) :: rest) = integerValues rest := rfl

@[simp] theorem integerValues_append (first second : Entries) :
    integerValues (first ++ second) = integerValues first ++ integerValues second :=
  List.filterMap_append

theorem integerValues_assignKey (entries : Entries) (key : String) (value : Value) :
    integerValues (assignKey entries key value) = integerValues entries := by
  induction entries with
  | nil => rfl
  | cons entry rest inductionHypothesis =>
      obtain ⟨name, given⟩ := entry
      by_cases same : name = .str key
      · subst same
        simp [assignKey]
      · cases name with
        | int n => simp [assignKey, inductionHypothesis]
        | str other =>
            rw [assignKey, if_neg same]
            simpa using inductionHypothesis

/-- The integers among the keys count up from a number. -/
def NumberedFrom : Nat → List Key → Prop
  | _, [] => True
  | n, .str _ :: rest => NumberedFrom n rest
  | n, .int k :: rest => k = n ∧ NumberedFrom (n + 1) rest

theorem numberedFrom_append_str {n : Nat} {keys : List Key} (numbered : NumberedFrom n keys)
    (key : String) : NumberedFrom n (keys ++ [.str key]) := by
  induction keys generalizing n with
  | nil => exact numbered
  | cons head rest inductionHypothesis =>
      cases head with
      | str _ => exact inductionHypothesis numbered
      | int k => exact ⟨numbered.1, inductionHypothesis numbered.2⟩

theorem numberedFrom_append_int {n : Nat} {entries : Entries}
    (numbered : NumberedFrom n (entries.map Prod.fst)) :
    NumberedFrom n (entries.map Prod.fst ++ [.int (n + (integerValues entries).length : Nat)]) := by
  induction entries generalizing n with
  | nil => exact ⟨rfl, trivial⟩
  | cons entry rest inductionHypothesis =>
      obtain ⟨name, given⟩ := entry
      cases name with
      | str _ => exact inductionHypothesis numbered
      | int k =>
          refine ⟨numbered.1, ?_⟩
          have others := inductionHypothesis numbered.2
          rwa [show n + 1 + (integerValues rest).length =
            n + (integerValues ((.int k, given) :: rest)).length by simp; omega] at others

/-- So the value at each place is found under its number. -/
theorem lookup_int_iff {n : Nat} {entries : Entries}
    (numbered : NumberedFrom n (entries.map Prod.fst)) {k : Int} {value : Value} :
    entries.lookup (.int k) = some value ↔
      ∃ place : Nat, k = (n + place : Nat) ∧ (integerValues entries)[place]? = some value := by
  induction entries generalizing n with
  | nil => simp
  | cons entry rest inductionHypothesis =>
      obtain ⟨name, given⟩ := entry
      cases name with
      | str key =>
          rw [List.lookup_cons, show (Key.int k == Key.str key) = false by simp]
          exact inductionHypothesis numbered
      | int first =>
          obtain ⟨rfl, others⟩ := numbered
          rw [List.lookup_cons]
          by_cases isFirst : k = n
          · subst isFirst
            simp only [beq_self_eq_true, integerValues_int]
            constructor
            · rintro isValue
              exact ⟨0, by simp, by simpa using isValue⟩
            · rintro ⟨place, atPlace, isValue⟩
              obtain rfl : place = 0 := by omega
              simpa using isValue
          · rw [show (Key.int k == Key.int n) = false by simpa using isFirst]
            refine (inductionHypothesis others).trans ?_
            constructor
            · rintro ⟨place, atPlace, isValue⟩
              exact ⟨place + 1, by omega, by simpa using isValue⟩
            · rintro ⟨place, atPlace, isValue⟩
              cases place with
              | zero => exact absurd (by omega) isFirst
              | succ place => exact ⟨place, by omega, by simpa using isValue⟩

/-! ## Merging -/

/-- One round of `array_merge`. -/
def mergeRound (merged : Entries) (entry : Key × Value) : Entries :=
  match entry.1 with
  | .str key => assignKey merged key entry.2
  | .int _ => merged ++ [(.int (integerValues merged).length, entry.2)]

theorem arrayMerge_eq_foldl (first second : Entries) :
    arrayMerge first second = (first ++ second).foldl mergeRound [] := by
  unfold arrayMerge
  refine List.foldl_ext _ _ _ fun merged entry _ => ?_
  obtain ⟨name, given⟩ := entry
  cases name with
  | str key => rfl
  | int n =>
      refine congrArg (fun count : Nat => merged ++ [(Key.int count, given)]) ?_
      -- As many keys are integers as there are values under them.
      induction merged with
      | nil => rfl
      | cons earlier rest inductionHypothesis =>
          obtain ⟨earlierName, earlierValue⟩ := earlier
          cases earlierName <;> simpa using inductionHypothesis

/-- The keys of an array that `array_merge` returns. -/
structure IsMerged (entries : Entries) : Prop where
  distinct : (entries.map Prod.fst).Nodup
  numbered : NumberedFrom 0 (entries.map Prod.fst)

theorem isMerged_round {merged : Entries} (isMerged : IsMerged merged) (entry : Key × Value) :
    IsMerged (mergeRound merged entry) := by
  obtain ⟨name, given⟩ := entry
  cases name with
  | str key =>
      simp only [mergeRound]
      by_cases isThere : Key.str key ∈ merged.map Prod.fst
      · constructor <;> rw [keys_assignKey, if_pos isThere]
        · exact isMerged.distinct
        · exact isMerged.numbered
      · constructor <;> rw [keys_assignKey, if_neg isThere]
        · rw [List.nodup_append]
          exact ⟨isMerged.distinct, by simp, by
            rintro _ isOld _ isNew rfl
            exact isThere (List.mem_singleton.mp isNew ▸ isOld)⟩
        · exact numberedFrom_append_str isMerged.numbered key
  | int n =>
      have fresh : Key.int (integerValues merged).length ∉ merged.map Prod.fst := by
        intro isThere
        obtain ⟨value, found, -⟩ := exists_lookup_of_named isThere
        obtain ⟨place, atPlace, isValue⟩ := (lookup_int_iff isMerged.numbered).mp found
        obtain ⟨below, -⟩ := List.getElem?_eq_some_iff.mp isValue
        omega
      constructor <;> simp only [mergeRound, List.map_append, List.map_cons, List.map_nil]
      · rw [List.nodup_append]
        exact ⟨isMerged.distinct, by simp, by
          rintro _ isOld _ isNew rfl
          exact fresh (List.mem_singleton.mp isNew ▸ isOld)⟩
      · simpa using numberedFrom_append_int isMerged.numbered

theorem isMerged_foldl {merged : Entries} (isMerged : IsMerged merged) (entries : Entries) :
    IsMerged (entries.foldl mergeRound merged) := by
  induction entries generalizing merged with
  | nil => exact isMerged
  | cons entry rest inductionHypothesis => exact inductionHypothesis (isMerged_round isMerged entry)

theorem isMerged_arrayMerge (first second : Entries) : IsMerged (arrayMerge first second) := by
  rw [arrayMerge_eq_foldl]
  have empty : IsMerged [] := ⟨List.nodup_nil, trivial⟩
  exact isMerged_foldl empty _

/-! ## Values under integer keys -/

theorem integerValues_foldl (entries merged : Entries) :
    integerValues (entries.foldl mergeRound merged) =
      integerValues merged ++ integerValues entries := by
  induction entries generalizing merged with
  | nil => simp
  | cons entry rest inductionHypothesis =>
      obtain ⟨name, given⟩ := entry
      rw [List.foldl_cons, inductionHypothesis]
      cases name with
      | str key => simp [mergeRound, integerValues_assignKey]
      | int n => simp [mergeRound]

/-- An integer key of the merged array is the place of its value. -/
theorem lookup_arrayMerge_int_iff {first second : Entries} {k : Int} {value : Value} :
    (arrayMerge first second).lookup (.int k) = some value ↔
      ∃ place : Nat, k = place ∧
        (integerValues first ++ integerValues second)[place]? = some value := by
  have values : integerValues (arrayMerge first second) =
      integerValues first ++ integerValues second := by
    rw [arrayMerge_eq_foldl, integerValues_foldl, integerValues_append]
    rfl
  rw [lookup_int_iff (isMerged_arrayMerge first second).numbered, values]
  simp only [Nat.zero_add]

/-! ## Values under text keys -/

section Texts

variable {entries merged : Entries} {key : String} {value : Value}

theorem lookup_foldl_of_notMem (absent : Key.str key ∉ entries.map Prod.fst) :
    (entries.foldl mergeRound merged).lookup (.str key) = merged.lookup (.str key) := by
  induction entries generalizing merged with
  | nil => rfl
  | cons entry rest inductionHypothesis =>
      obtain ⟨name, given⟩ := entry
      simp only [List.map_cons, List.mem_cons, not_or] at absent
      rw [List.foldl_cons, inductionHypothesis absent.2]
      cases name with
      | str other => exact lookup_assignKey_of_ne absent.1
      | int n =>
          have isOther : ∀ k, (Key.str key == Key.int k) = false := by simp
          simp [mergeRound, List.lookup_append, List.lookup_cons, isOther]

theorem lookup_foldl_of_mem (distinct : (entries.map Prod.fst).Nodup)
    (member : (.str key, value) ∈ entries) :
    (entries.foldl mergeRound merged).lookup (.str key) = some value := by
  induction entries generalizing merged with
  | nil => cases member
  | cons entry rest inductionHypothesis =>
      rw [List.map_cons, List.nodup_cons] at distinct
      rw [List.foldl_cons]
      rcases List.mem_cons.mp member with isFirst | isLater
      · subst isFirst
        rw [lookup_foldl_of_notMem distinct.1]
        exact lookup_assignKey_self merged key value
      · exact inductionHypothesis distinct.2 isLater

/-- What the second array does not name is kept from the first. -/
theorem lookup_arrayMerge_left {second : Entries} (distinct : (entries.map Prod.fst).Nodup)
    (found : entries.lookup (.str key) = some value)
    (notNamed : Key.str key ∉ second.map Prod.fst) :
    (arrayMerge entries second).lookup (.str key) = some value := by
  rw [arrayMerge_eq_foldl, List.foldl_append, lookup_foldl_of_notMem notNamed]
  exact lookup_foldl_of_mem distinct (mem_of_lookup_eq_some found)

theorem lookup_arrayMerge_right (first : Entries) (distinct : (entries.map Prod.fst).Nodup)
    (member : (.str key, value) ∈ entries) :
    (arrayMerge first entries).lookup (.str key) = some value := by
  rw [arrayMerge_eq_foldl, List.foldl_append]
  exact lookup_foldl_of_mem distinct member

end Texts

/-! ## Merging again -/

theorem assignKey_of_notMem {entries : Entries} {key : String}
    (absent : Key.str key ∉ entries.map Prod.fst) (value : Value) :
    assignKey entries key value = entries ++ [(.str key, value)] := by
  induction entries with
  | nil => rfl
  | cons entry rest inductionHypothesis =>
      simp only [List.map_cons, List.mem_cons, not_or] at absent
      have different : ¬ entry.1 = Key.str key := fun same => absent.1 same.symm
      simp [assignKey, different, inductionHypothesis absent.2]

theorem eq_of_numberedFrom_append {n : Nat} {entries : Entries} {k : Int} {rest : List Key}
    (numbered : NumberedFrom n (entries.map Prod.fst ++ .int k :: rest)) :
    k = (n + (integerValues entries).length : Nat) := by
  induction entries generalizing n with
  | nil => simpa using numbered.1
  | cons entry others inductionHypothesis =>
      obtain ⟨name, given⟩ := entry
      cases name with
      | str _ => exact inductionHypothesis numbered
      | int _ =>
          have later := inductionHypothesis numbered.2
          simp only [integerValues_int, List.length_cons]
          omega

/-- The rounds rebuild an array that is merged already. -/
theorem foldl_of_isMerged {merged rest : Entries} (isMerged : IsMerged (merged ++ rest)) :
    rest.foldl mergeRound merged = merged ++ rest := by
  induction rest generalizing merged with
  | nil => simp
  | cons entry others inductionHypothesis =>
      obtain ⟨name, given⟩ := entry
      have next : mergeRound merged (name, given) = merged ++ [(name, given)] := by
        have distinct := isMerged.distinct
        have numbered := isMerged.numbered
        rw [List.map_append, List.map_cons] at distinct numbered
        cases name with
        | str key =>
            apply assignKey_of_notMem
            intro isThere
            exact (List.nodup_append.mp distinct).2.2 _ isThere _ List.mem_cons_self rfl
        | int n =>
            have isNext := eq_of_numberedFrom_append numbered
            simp [mergeRound, isNext]
      rw [List.foldl_cons, next, inductionHypothesis (by simpa using isMerged)]
      simp

theorem numberedFrom_of_texts {n : Nat} {keys : List Key}
    (texts : ∀ key ∈ keys, ∃ text, key = .str text) : NumberedFrom n keys := by
  induction keys with
  | nil => trivial
  | cons key keys inductionHypothesis =>
      obtain ⟨text, rfl⟩ := texts key List.mem_cons_self
      exact inductionHypothesis fun other member => texts other (List.mem_cons_of_mem _ member)

/-- Text keys of which none is repeated are put one behind the other. -/
theorem arrayMerge_eq_append {first second : Entries}
    (distinct : ((first ++ second).map Prod.fst).Nodup)
    (texts : ∀ key ∈ (first ++ second).map Prod.fst, ∃ text, key = .str text) :
    arrayMerge first second = first ++ second := by
  rw [arrayMerge_eq_foldl]
  have isMerged : IsMerged ([] ++ (first ++ second)) := ⟨distinct, numberedFrom_of_texts texts⟩
  exact foldl_of_isMerged isMerged

/-- Merging the same text keys again changes nothing. -/
theorem arrayMerge_idempotent (first : Entries) {second : Entries}
    (distinct : (second.map Prod.fst).Nodup)
    (texts : ∀ entry ∈ second, ∃ key, entry.1 = .str key) :
    arrayMerge (arrayMerge first second) second = arrayMerge first second := by
  have rebuilt : (arrayMerge first second).foldl mergeRound [] = arrayMerge first second :=
    foldl_of_isMerged (isMerged_arrayMerge first second)
  have unchanged : ∀ entry ∈ second,
      mergeRound (arrayMerge first second) entry = arrayMerge first second := by
    rintro ⟨name, value⟩ member
    obtain ⟨key, isText⟩ := texts _ member
    obtain rfl : name = .str key := isText
    exact assignKey_eq_self (lookup_arrayMerge_right first distinct member)
  rw [arrayMerge_eq_foldl (arrayMerge first second), List.foldl_append, rebuilt]
  refine List.foldlRecOn (motive := fun merged => merged = arrayMerge first second) second _ rfl ?_
  intro merged same entry member
  rw [same, unchanged entry member]

end TaxGateway.Php.Value
