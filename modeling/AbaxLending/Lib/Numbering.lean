import AbaxLending.Lib.Mapping

/-!
Numbering the elements of a type in the order of their first occurrence.

A numbering is a pair of stores, from the numbers to the elements and back, with the next
number.  It `Numbers` a list when it gives every element of the list its position;
then the two stores are inverse to each other (`Numbers.inverse`) and the numbers in use
are those below the next one (`Numbers.isSome_iff`).  Numbering another element appends it
to the list (`Numbers.append`).  A table by numbers can then be read by the elements
(`Numbers.lookup`), and is written one element at a time.  A numbering that gives an element a
number which it also uses for something else, or will use again, is `SpoiltNumbers`: it numbers
no list, and numbering further elements does not mend it.
-/

/-- Writing a store writes its function. -/
lemma Mapping.get_insert_eq_update {K V : Type} [DecidableEq K] (m : Mapping K V) (k : K) (v : V) :
    (m.insert k v).get = Function.update m.get k (some v) := rfl

variable {α : Type}

/-- Two stores number the elements of a list by their positions. -/
structure Numbers (l : List α) (element : Mapping ℕ α) (number : Mapping α ℕ) (next : ℕ) :
    Prop where
  nodup : l.Nodup
  next : next = l.length
  element : ∀ n, element.get n = l[n]?
  number : ∀ a n, number.get a = some n ↔ l[n]? = some a

/-- An element has a number that belongs to another one, or that is still to be given. -/
def SpoiltNumbers (element : Mapping ℕ α) (number : Mapping α ℕ) (next : ℕ) : Prop :=
  ∃ a n, number.get a = some n ∧ (element.get n ≠ some a ∨ next ≤ n)

namespace Numbers

variable {l : List α} {element : Mapping ℕ α} {number : Mapping α ℕ} {next : ℕ} {a : α}

/-- Empty stores number nothing. -/
lemma nil : Numbers ([] : List α) .empty .empty 0 :=
  ⟨List.nodup_nil, rfl, fun _ => rfl, fun _ _ => ⟨nofun, nofun⟩⟩

/-- The two stores are inverse to each other. -/
lemma inverse (h : Numbers l element number next) {n : ℕ} :
    element.get n = some a ↔ number.get a = some n := by
  rw [h.element, h.number]

/-- The numbers in use are those below the next one. -/
lemma isSome_iff (h : Numbers l element number next) {n : ℕ} :
    (element.get n).isSome ↔ n < next := by
  rw [h.element, h.next, isSome_getElem?]

/-- The elements with a number are those of the list. -/
lemma contains_iff (h : Numbers l element number next) : number.contains a = true ↔ a ∈ l := by
  rw [Mapping.contains, Option.isSome_iff_exists, List.mem_iff_getElem?]
  exact exists_congr fun n => h.number a n

/-- A numbering is not spoilt. -/
lemma not_spoilt (h : Numbers l element number next) : ¬ SpoiltNumbers element number next := by
  rintro ⟨a, n, hn, hne | hle⟩
  · exact hne (h.inverse.mpr hn)
  · have hlt : n < next := h.isSome_iff.mp (by rw [h.inverse.mpr hn]; rfl)
    omega

variable [DecidableEq α]

/-- **Numbering another element** appends it to the list. -/
theorem append (h : Numbers l element number next) (ha : a ∉ l) :
    Numbers (l ++ [a]) (element.insert next a) (number.insert a next) (next + 1) := by
  have hget : ∀ n, (l ++ [a])[n]? = if n = next then some a else l[n]? := fun n => by
    rw [h.next]
    split_ifs with hn
    · rw [hn, List.getElem?_concat_length]
    · rcases Nat.lt_or_gt_of_ne hn with hlt | hgt
      · exact List.getElem?_append_left hlt
      · rw [List.getElem?_eq_none (by simpa using hgt), List.getElem?_eq_none hgt.le]
  refine ⟨?_, by simp [h.next], fun n => ?_, fun b n => ?_⟩
  · exact h.nodup.append (List.nodup_singleton a) (List.disjoint_singleton.mpr ha)
  · rw [Mapping.get_insert, hget, h.element]
  · rw [Mapping.get_insert, hget]
    by_cases hb : b = a
    · subst hb
      have hnone : l[n]? ≠ some b := fun hn => ha (List.mem_of_getElem? hn)
      by_cases hn : n = next
      · simp [hn]
      · simp [hn, hnone, Ne.symm hn]
    · rw [if_neg hb, h.number]
      by_cases hn : n = next
      · have hnone : l[n]? = none := List.getElem?_eq_none (hn.trans h.next).ge
        simp [hn ▸ hnone, hn, Ne.symm hb]
      · rw [if_neg hn]

/-! ### Tables -/

/-- A table by numbers, read by the elements. -/
def lookup {β : Type} (number : Mapping α ℕ) (table : ℕ → Option β) (a : α) : Option β :=
  (number.get a).bind table

section

variable {β : Type} {table : ℕ → Option β} {n : ℕ} {v : Option β}

/-- **Writing the entry of an element** leaves what is read for the others. -/
theorem lookup_update (h : Numbers l element number next) (ha : number.get a = some n) :
    lookup number (Function.update table n v) = Function.update (lookup number table) a v := by
  funext b
  by_cases hb : b = a
  · rw [hb, Function.update_self, lookup, ha, Option.bind_some, Function.update_self]
  · rw [Function.update_of_ne hb, lookup, lookup]
    cases hm : number.get b with
    | none => rfl
    | some m =>
        have hmn : m ≠ n := by
          rintro rfl
          have hboth := (h.inverse.mpr hm).symm.trans (h.inverse.mpr ha)
          exact hb (Option.some.inj hboth)
        exact Function.update_of_ne hmn _ _

/-- **Numbering another element** with its entry leaves what is read for the others. -/
theorem lookup_append (h : Numbers l element number next) (ha : a ∉ l) :
    lookup (number.insert a next) (Function.update table next v)
      = Function.update (lookup number table) a v := by
  rw [(h.append ha).lookup_update (Mapping.get_insert_self ..)]
  funext b
  by_cases hb : b = a
  · rw [hb, Function.update_self, Function.update_self]
  · rw [Function.update_of_ne hb, Function.update_of_ne hb, lookup, lookup,
      Mapping.get_insert_of_ne _ hb]

/-- The number of an element is its position. -/
lemma number_eq (h : Numbers l element number next) (a : α) : number.get a = l.idxOf? a := by
  refine Option.ext fun n => ?_
  rw [h.number, List.idxOf?_eq_some_iff]
  constructor
  · intro hn
    obtain ⟨hlt, heq⟩ := List.getElem?_eq_some_iff.mp hn
    refine ⟨hlt, heq, fun m hm hma => ?_⟩
    exact hm.ne ((h.nodup.getElem_inj_iff).mp (hma.trans heq.symm))
  · rintro ⟨hlt, heq, -⟩
    exact List.getElem?_eq_some_iff.mpr ⟨hlt, heq⟩

end

end Numbers

namespace SpoiltNumbers

variable {element : Mapping ℕ α} {number : Mapping α ℕ} {next : ℕ}

/-- Turning the counter back spoils no less. -/
lemma turn_back (h : SpoiltNumbers element number next) {earlier : ℕ} (hle : earlier ≤ next) :
    SpoiltNumbers element number earlier := by
  obtain ⟨a, n, hn, hne | hlt⟩ := h
  · exact ⟨a, n, hn, .inl hne⟩
  · exact ⟨a, n, hn, .inr (hle.trans hlt)⟩

/-- **Numbering further elements does not mend a numbering.** -/
theorem insert [DecidableEq α] (h : SpoiltNumbers element number next) {b : α}
    (hb : number.contains b = false) :
    SpoiltNumbers (element.insert next b) (number.insert b next) (next + 1) := by
  obtain ⟨a, n, hn, hbad⟩ := h
  have hne : a ≠ b := by
    rintro rfl
    rw [Mapping.contains, hn] at hb
    cases hb
  refine ⟨a, n, by rw [Mapping.get_insert_of_ne _ hne, hn], ?_⟩
  by_cases hnext : n = next
  · left
    rw [hnext, Mapping.get_insert_self]
    exact fun h => hne (Option.some.inj h).symm
  · rcases hbad with hbad | hle
    · left
      rwa [Mapping.get_insert_of_ne _ hnext]
    · right
      omega

/-- Turning the counter of a numbering back below a number in use spoils it. -/
lemma of_turn_back {l : List α} (h : Numbers l element number next) {earlier : ℕ}
    (hlt : earlier < next) : SpoiltNumbers element number earlier := by
  obtain ⟨a, ha⟩ := Option.isSome_iff_exists.mp (h.isSome_iff.mpr hlt)
  exact ⟨a, earlier, h.inverse.mp ha, .inr le_rfl⟩

end SpoiltNumbers
