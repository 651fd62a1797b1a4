import LevelScript.CallGraph

/-!
Sorted lists as sets and as maps: what is inserted is there, nothing else is, and nothing gets lost.
For that the order has to tell any two different elements apart; for the list to stay sorted it has
to be a strict order as well.
-/

namespace LevelScript

variable {α : Type} {lt : α → α → Bool}

/-- An order that tells any two different elements apart. -/
def Separates (lt : α → α → Bool) : Prop :=
  ∀ a b, lt a b = false → lt b a = false → a = b

theorem mem_sortedInsert_of_mem {a b : α} {items : List α} (h : b ∈ items) :
    b ∈ sortedInsert lt a items := by
  induction items with
  | nil => exact absurd h List.not_mem_nil
  | cons head rest ih =>
      unfold sortedInsert
      split
      · exact List.mem_cons_of_mem a h
      · split
        · rcases List.mem_cons.mp h with rfl | hrest
          · exact List.mem_cons_self
          · exact List.mem_cons_of_mem head (ih hrest)
        · exact h

theorem mem_sortedInsert_self (hlt : Separates lt) (a : α) (items : List α) :
    a ∈ sortedInsert lt a items := by
  induction items with
  | nil => exact List.mem_cons_self
  | cons head rest ih =>
      unfold sortedInsert
      split
      · exact List.mem_cons_self
      · next hab =>
        split
        · exact List.mem_cons_of_mem head ih
        · next hba =>
          rw [hlt a head (by simpa using hab) (by simpa using hba)]
          exact List.mem_cons_self

theorem eq_or_mem_of_mem_sortedInsert {a b : α} {items : List α}
    (h : b ∈ sortedInsert lt a items) : b = a ∨ b ∈ items := by
  induction items with
  | nil => exact .inl (List.mem_singleton.mp h)
  | cons head rest ih =>
      unfold sortedInsert at h
      split at h
      · exact List.mem_cons.mp h
      · split at h
        · rcases List.mem_cons.mp h with rfl | hrest
          · exact .inr List.mem_cons_self
          · rcases ih hrest with rfl | hmem
            · exact .inl rfl
            · exact .inr (List.mem_cons_of_mem head hmem)
        · exact .inr h

/-- An element that the order tells apart from all others is really added. -/
theorem sortedInsert_perm {a : α} {items : List α}
    (h : ∀ b ∈ items, lt a b = true ∨ lt b a = true) :
    (sortedInsert lt a items).Perm (a :: items) := by
  induction items with
  | nil => exact .refl _
  | cons head rest ih =>
      unfold sortedInsert
      split
      · exact .refl _
      · next hab =>
        have hba : lt head a = true := (h head List.mem_cons_self).resolve_left hab
        rw [if_pos hba]
        have hrest := ih fun b hb => h b (List.mem_cons_of_mem head hb)
        exact (hrest.cons head).trans (.swap a head rest)

theorem mem_sortedInsert (hlt : Separates lt) {a b : α} {items : List α} :
    b ∈ sortedInsert lt a items ↔ b = a ∨ b ∈ items := by
  constructor
  · exact eq_or_mem_of_mem_sortedInsert
  · rintro (rfl | h)
    · exact mem_sortedInsert_self hlt b items
    · exact mem_sortedInsert_of_mem h

theorem mem_sortedUnion (hlt : Separates lt) {a : α} {set items : List α} :
    a ∈ sortedUnion lt set items ↔ a ∈ set ∨ a ∈ items := by
  induction items generalizing set with
  | nil => simp [sortedUnion]
  | cons head rest ih =>
      have hfold : a ∈ sortedUnion lt set (head :: rest) ↔
          a ∈ sortedInsert lt head set ∨ a ∈ rest := ih
      rw [hfold, mem_sortedInsert hlt, List.mem_cons, or_comm (a := a = head), or_assoc]

theorem mem_sortedSet (hlt : Separates lt) {a : α} {items : List α} :
    a ∈ sortedSet lt items ↔ a ∈ items := by
  simp [sortedSet, mem_sortedUnion hlt]

/-! ### Strict orders -/

/-- A strict order that tells any two different elements apart. -/
structure Orders (lt : α → α → Bool) : Prop where
  irrefl : ∀ a, lt a a = false
  trans : ∀ {a b c}, lt a b = true → lt b c = true → lt a c = true
  separates : Separates lt

/-- An ascending list stays one. -/
theorem Orders.pairwise_sortedInsert (hlt : Orders lt) {items : List α}
    (h : items.Pairwise (lt · ·)) (a : α) : (sortedInsert lt a items).Pairwise (lt · ·) := by
  induction items with
  | nil => exact List.pairwise_singleton _ a
  | cons head rest ih =>
      obtain ⟨hhead, hrest⟩ := List.pairwise_cons.mp h
      unfold sortedInsert
      split
      · next hfirst =>
        refine List.pairwise_cons.mpr ⟨?_, h⟩
        intro b hb
        rcases List.mem_cons.mp hb with rfl | hb
        · exact hfirst
        · exact hlt.trans hfirst (hhead b hb)
      · split
        · next hlater =>
          refine List.pairwise_cons.mpr ⟨?_, ih hrest⟩
          intro b hb
          rcases eq_or_mem_of_mem_sortedInsert hb with rfl | hb
          · exact hlater
          · exact hhead b hb
        · exact h

theorem Orders.nodup (hlt : Orders lt) {items : List α} (h : items.Pairwise (lt · ·)) :
    items.Nodup := by
  refine h.imp ?_
  rintro a b hab rfl
  rw [hlt.irrefl] at hab
  cases hab

/-! ### Maps -/

section Maps

variable {β : Type} {key : α} {initial : β} {change : β → β} {entries : List (α × β)}

/-- The key is there, and the other keys are as before. -/
theorem mem_keys_sortedAlter (hlt : Separates lt) {other : α} :
    other ∈ (sortedAlter lt key initial change entries).map Prod.fst ↔
      other = key ∨ other ∈ entries.map Prod.fst := by
  induction entries with
  | nil => simp [sortedAlter]
  | cons entry rest ih =>
      obtain ⟨head, value⟩ := entry
      unfold sortedAlter
      split
      · simp
      · next hfirst =>
        split
        · rw [List.map_cons, List.mem_cons, ih, List.map_cons, List.mem_cons, or_left_comm]
        · next hlater =>
          have hhead : key = head := hlt key head (by simpa using hfirst) (by simpa using hlater)
          simp [hhead]

theorem Orders.pairwise_sortedAlter (hlt : Orders lt)
    (h : (entries.map Prod.fst).Pairwise (lt · ·)) :
    ((sortedAlter lt key initial change entries).map Prod.fst).Pairwise (lt · ·) := by
  induction entries with
  | nil => exact List.pairwise_singleton _ key
  | cons entry rest ih =>
      obtain ⟨head, value⟩ := entry
      obtain ⟨hhead, hrest⟩ := List.pairwise_cons.mp h
      unfold sortedAlter
      split
      · next hfirst =>
        refine List.pairwise_cons.mpr ⟨?_, h⟩
        intro other hother
        rcases List.mem_cons.mp hother with rfl | hother
        · exact hfirst
        · exact hlt.trans hfirst (hhead other hother)
      · split
        · next hlater =>
          refine List.pairwise_cons.mpr ⟨?_, ih hrest⟩
          intro other hother
          rcases (mem_keys_sortedAlter hlt.separates).mp hother with rfl | hother
          · exact hlater
          · exact hhead other hother
        · exact h

variable [BEq α] [LawfulBEq α]

theorem lookup_cons_of_ne {value : β} {other : α} (h : other ≠ key) :
    ((key, value) :: entries).lookup other = entries.lookup other := by
  rw [List.lookup_cons, beq_eq_false_iff_ne.mpr h]

/-- Only the value of the key changes. -/
theorem Orders.lookup_sortedAlter [DecidableEq α] (hlt : Orders lt)
    (h : (entries.map Prod.fst).Pairwise (lt · ·)) (other : α) :
    (sortedAlter lt key initial change entries).lookup other =
      if other = key then some (change ((entries.lookup key).getD initial))
      else entries.lookup other := by
  induction entries with
  | nil =>
      by_cases hother : other = key
      · simp [sortedAlter, hother]
      · simp [sortedAlter, lookup_cons_of_ne hother, hother]
  | cons entry rest ih =>
      obtain ⟨head, value⟩ := entry
      obtain ⟨hhead, hrest⟩ := List.pairwise_cons.mp h
      have hne : ∀ {a b : α}, lt a b = true → b ≠ a := by
        rintro a b hab rfl
        rw [hlt.irrefl] at hab
        cases hab
      unfold sortedAlter
      split
      · next hfirst =>
        -- The new key stands before all others, so it has no value yet.
        have hnone : ((head, value) :: rest).lookup key = none := by
          rw [List.lookup_eq_none_iff]
          intro entry hentry
          rw [bne_iff_ne]
          refine (hne ?_).symm
          rcases List.mem_cons.mp hentry with rfl | hentry
          · exact hfirst
          · exact hlt.trans hfirst (hhead _ (List.mem_map_of_mem hentry))
        by_cases hother : other = key
        · simp [hother, hnone]
        · rw [lookup_cons_of_ne hother, if_neg hother]
      · next hfirst =>
        split
        · next hlater =>
          have hkey : key ≠ head := hne hlater
          rw [lookup_cons_of_ne hkey]
          by_cases hother : other = head
          · simp [hother, hkey.symm]
          · rw [lookup_cons_of_ne hother, lookup_cons_of_ne hother, ih hrest]
        · next hlater =>
          have hkey : key = head :=
            hlt.separates key head (by simpa using hfirst) (by simpa using hlater)
          subst hkey
          by_cases hother : other = key
          · simp [hother]
          · rw [lookup_cons_of_ne hother, lookup_cons_of_ne hother, if_neg hother]

end Maps

/-! ### The orders -/

theorem separates_textLt : Separates textLt := by
  intro a b hab hba
  simp only [textLt, decide_eq_false_iff_not] at hab hba
  exact String.le_antisymm hba hab

theorem separates_offsetLt : Separates offsetLt := by
  intro a b hab hba
  simp only [offsetLt, decide_eq_false_iff_not] at hab hba
  exact UInt32.le_antisymm (UInt32.not_lt.mp hba) (UInt32.not_lt.mp hab)

theorem separates_animationLt : Separates Animation.lt := by
  intro a b hab hba
  cases a with
  | named a =>
      cases b with
      | named b => exact congrArg _ (separates_textLt a b hab hba)
      | offset b => cases hab
  | offset a =>
      cases b with
      | named b => cases hba
      | offset b => exact congrArg _ (separates_offsetLt a b hab hba)

/-- Of two keys that are compared first, neither comes first only if they are equal, and then the
rest decides. -/
theorem lexLt_eq_false {κ : Type} [BEq κ] [LawfulBEq κ] {lt : κ → κ → Bool} (hlt : Separates lt)
    {a b : κ} {rest rest' : Bool} (hab : lexLt lt a b rest = false)
    (hba : lexLt lt b a rest' = false) : a = b ∧ rest = false ∧ rest' = false := by
  simp only [lexLt, Bool.or_eq_false_iff, Bool.and_eq_false_imp, beq_iff_eq] at hab hba
  have heq := hlt a b hab.1 hba.1
  exact ⟨heq, hab.2 heq, hba.2 heq.symm⟩

theorem separates_callLt : Separates Call.lt := by
  intro a b hab hba
  obtain ⟨hoffset, hab, hba⟩ := lexLt_eq_false separates_offsetLt hab hba
  obtain ⟨hname, hab, hba⟩ := lexLt_eq_false separates_textLt hab hba
  have hreason := separates_textLt _ _ hab hba
  cases a
  cases b
  simp_all

theorem orders_textLt : Orders textLt where
  irrefl a := by simp [textLt]
  trans hab hbc := by
    simp only [textLt, decide_eq_true_eq] at hab hbc ⊢
    exact String.lt_trans hab hbc
  separates := separates_textLt

theorem orders_offsetLt : Orders offsetLt where
  irrefl a := by simp [offsetLt]
  trans hab hbc := by
    simp only [offsetLt, decide_eq_true_eq] at hab hbc ⊢
    exact UInt32.lt_trans hab hbc
  separates := separates_offsetLt

section Lexicographic

variable {κ : Type} [BEq κ] [LawfulBEq κ] {first : κ → κ → Bool}

theorem lexLt_self (h : Orders first) {a : κ} {rest : Bool} (hrest : rest = false) :
    lexLt first a a rest = false := by
  simp [lexLt, h.irrefl, hrest]

theorem lexLt_trans (h : Orders first) {a b c : κ} {ab bc ac : Bool}
    (hab : lexLt first a b ab = true) (hbc : lexLt first b c bc = true)
    (hac : ab = true → bc = true → ac = true) : lexLt first a c ac = true := by
  simp only [lexLt, Bool.or_eq_true, Bool.and_eq_true, beq_iff_eq] at hab hbc ⊢
  rcases hab with hab | ⟨rfl, hab⟩
  · rcases hbc with hbc | ⟨rfl, _⟩
    · exact .inl (h.trans hab hbc)
    · exact .inl hab
  · rcases hbc with hbc | ⟨rfl, hbc⟩
    · exact .inl hbc
    · exact .inr ⟨rfl, hac hab hbc⟩

end Lexicographic

theorem separates_originLt : Separates Origin.lt := by
  intro a b hab hba
  obtain ⟨harena, hab, hba⟩ := lexLt_eq_false separates_textLt hab hba
  obtain ⟨hsource, hab, hba⟩ := lexLt_eq_false separates_textLt hab hba
  obtain ⟨hoffset, hab, hba⟩ := lexLt_eq_false separates_offsetLt hab hba
  obtain ⟨htarget, hab, hba⟩ := lexLt_eq_false separates_textLt hab hba
  have hreason := separates_textLt _ _ hab hba
  cases a
  cases b
  simp_all

theorem orders_originLt : Orders Origin.lt where
  irrefl _ := lexLt_self orders_textLt <| lexLt_self orders_textLt <| lexLt_self orders_offsetLt <|
    lexLt_self orders_textLt (orders_textLt.irrefl _)
  trans hab hbc :=
    lexLt_trans orders_textLt hab hbc fun hab hbc =>
      lexLt_trans orders_textLt hab hbc fun hab hbc =>
        lexLt_trans orders_offsetLt hab hbc fun hab hbc =>
          lexLt_trans orders_textLt hab hbc fun hab hbc => orders_textLt.trans hab hbc
  separates := separates_originLt

end LevelScript
