import Mathlib.Algebra.Order.BigOperators.Group.List
import Mathlib.Algebra.Order.Group.Defs
import Mathlib.Data.List.AList

/-!
# Sums over a dictionary

A dictionary is an association list without duplicate keys. The weight of a dictionary
is the sum of a measure over its values; an insertion or an erasure changes it by what
the key had before.
-/

namespace AgentMate.Dict

open List

variable {Key Value Amount : Type*}

section

variable [AddCommGroup Amount]

def weight (measure : Value → Amount) (dict : AList fun _ : Key => Value) : Amount :=
  (dict.entries.map fun entry => measure entry.2).sum

variable [DecidableEq Key]

def share (measure : Value → Amount) (key : Key) (dict : AList fun _ : Key => Value) : Amount :=
  ((dict.lookup key).map measure).getD 0

variable {measure : Value → Amount} {key : Key} {dict : AList fun _ : Key => Value}

theorem share_some {value : Value} (found : dict.lookup key = some value) :
    share measure key dict = measure value := by
  simp [share, found]

theorem share_none (absent : dict.lookup key = none) : share measure key dict = 0 := by
  simp [share, absent]

theorem weight_erase (measure : Value → Amount) (key : Key) (dict : AList fun _ : Key => Value) :
    weight measure (dict.erase key) = weight measure dict - share measure key dict := by
  obtain ⟨entries, unique⟩ := dict
  change (((entries.kerase key).map fun entry => measure entry.2)).sum =
    ((entries.map fun entry => measure entry.2)).sum - (((entries.dlookup key).map measure).getD 0)
  induction entries with
  | nil => simp
  | cons entry rest ih =>
    have later := ih (nodupKeys_cons.mp unique).2
    by_cases same : key = entry.1
    · rw [kerase_cons_eq same, same, dlookup_cons_eq]
      simp
    · rw [kerase_cons_ne same, dlookup_cons_ne _ _ same]
      simp only [map_cons, sum_cons, later, add_sub_assoc]

theorem weight_insert (measure : Value → Amount) (key : Key) (value : Value)
    (dict : AList fun _ : Key => Value) :
    weight measure (dict.insert key value) =
      weight measure dict - share measure key dict + measure value := by
  have erased := weight_erase measure key dict
  rw [weight] at erased ⊢
  rw [AList.entries_insert, map_cons, sum_cons, add_comm, ← erased]
  rfl

theorem weight_erase_all (measure : Value → Amount) (keys : List Key)
    (dict : AList fun _ : Key => Value) (idle : ∀ key ∈ keys, share measure key dict = 0) :
    weight measure (keys.foldl (fun dict key => dict.erase key) dict) = weight measure dict := by
  induction keys generalizing dict with
  | nil => rfl
  | cons first rest ih =>
    have later : ∀ key ∈ rest, share measure key (dict.erase first) = 0 := by
      intro key mem
      by_cases same : key = first
      · apply share_none
        rw [same, AList.lookup_erase]
      · have before := idle key (mem_cons_of_mem first mem)
        rwa [share, AList.lookup_erase_ne same]
    rw [foldl_cons, ih _ later, weight_erase, idle first mem_cons_self, sub_zero]

theorem lookup_erase_all {keys : List Key} {value : Value}
    (found : (keys.foldl (fun dict key => dict.erase key) dict).lookup key = some value) :
    dict.lookup key = some value := by
  induction keys generalizing dict with
  | nil => exact found
  | cons first rest ih =>
    have before := ih found
    by_cases same : key = first
    · rw [same, AList.lookup_erase] at before
      cases before
    · rwa [AList.lookup_erase_ne same] at before

end

theorem weight_count (chosen : Value → Bool) (dict : AList fun _ : Key => Value) :
    weight (fun value => if chosen value then (1 : Int) else 0) dict =
      dict.entries.countP fun entry => chosen entry.2 := by
  rw [weight]
  induction dict.entries with
  | nil => rfl
  | cons entry rest ih =>
    rw [map_cons, sum_cons, countP_cons, ih]
    by_cases choice : chosen entry.2 <;> simp [choice, add_comm]

variable [AddCommGroup Amount] [PartialOrder Amount] [DecidableEq Key]
  {measure : Value → Amount} {dict : AList fun _ : Key => Value}

def Nonneg (measure : Value → Amount) (dict : AList fun _ : Key => Value) : Prop :=
  ∀ key value, dict.lookup key = some value → 0 ≤ measure value

theorem share_nonneg (positive : Nonneg measure dict) (key : Key) : 0 ≤ share measure key dict := by
  cases found : dict.lookup key with
  | none => rw [share_none found]
  | some value =>
    rw [share_some found]
    exact positive key value found

theorem nonneg_erase (positive : Nonneg measure dict) (key : Key) :
    Nonneg measure (dict.erase key) := by
  intro other value found
  by_cases same : other = key
  · rw [same, AList.lookup_erase] at found
    cases found
  · rw [AList.lookup_erase_ne same] at found
    exact positive other value found

theorem nonneg_insert (positive : Nonneg measure dict) (key : Key) {value : Value}
    (new : 0 ≤ measure value) : Nonneg measure (dict.insert key value) := by
  intro other stored found
  by_cases same : other = key
  · rw [same, AList.lookup_insert] at found
    cases found
    exact new
  · rw [AList.lookup_insert_ne same] at found
    exact positive other stored found

variable [IsOrderedAddMonoid Amount]

theorem weight_nonneg (positive : Nonneg measure dict) : 0 ≤ weight measure dict := by
  refine sum_nonneg fun amount mem => ?_
  rw [mem_map] at mem
  obtain ⟨⟨key, value⟩, stored, rfl⟩ := mem
  exact positive key value (AList.mem_lookup_iff.mpr stored)

theorem share_le_weight (positive : Nonneg measure dict) (key : Key) :
    share measure key dict ≤ weight measure dict := by
  have rest := weight_nonneg (nonneg_erase positive key)
  rw [weight_erase] at rest
  exact sub_nonneg.mp rest

end AgentMate.Dict
