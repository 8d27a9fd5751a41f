import Mathlib.Data.List.AList
import Mathlib.Data.List.Sort

/-!
This module contains tables of rows with a primary key: at most one row for each key, and every
row stored under its own key.
-/

structure Table {κ α : Type} [DecidableEq κ] (key : α → κ) where
  entries : AList (fun _ : κ => α)
  hkey : ∀ (k : κ) (a : α), entries.lookup k = some a → key a = k

namespace Table

variable {κ α : Type} [DecidableEq κ] {key : α → κ}

def empty : Table key where
  entries := ∅
  hkey := by simp

instance : Inhabited (Table key) where
  default := empty

def find? (t : Table key) (k : κ) : Option α :=
  t.entries.lookup k

def rows (t : Table key) : List α :=
  t.entries.entries.map Sigma.snd

def upsert (t : Table key) (a : α) : Table key where
  entries := t.entries.insert (key a) a
  hkey := by
    intro k b h
    by_cases hk : k = key a
    . subst hk
      rw [AList.lookup_insert] at h
      simp_all
    . rw [AList.lookup_insert_ne hk] at h
      exact t.hkey k b h

def add (t : Table key) (a : α) : Table key :=
  match t.find? (key a) with
  | some _ => t
  | none => t.upsert a

def erase (t : Table key) (k : κ) : Table key where
  entries := t.entries.erase k
  hkey := by
    intro k' b h
    by_cases hk : k' = k
    . subst hk
      simp at h
    . rw [AList.lookup_erase_ne hk] at h
      exact t.hkey k' b h

@[simp]
theorem find?_empty (k : κ) : (empty : Table key).find? k = none := by
  simp [find?, empty]

theorem key_of_find? {t : Table key} {k : κ} {a : α} (h : t.find? k = some a) : key a = k :=
  t.hkey k a h

@[simp]
theorem find?_upsert_self (t : Table key) (a : α) : (t.upsert a).find? (key a) = some a := by
  simp [find?, upsert]

theorem find?_upsert_ne (t : Table key) {a : α} {k : κ} (h : k ≠ key a)
    : (t.upsert a).find? k = t.find? k := by
  simp [find?, upsert, AList.lookup_insert_ne h]

theorem find?_upsert (t : Table key) (a : α) (k : κ)
    : (t.upsert a).find? k = if k = key a then some a else t.find? k := by
  split
  . next h =>
    subst h
    simp
  . next h => exact find?_upsert_ne t h

@[simp]
theorem find?_erase_self (t : Table key) (k : κ) : (t.erase k).find? k = none := by
  simp [find?, erase]

theorem find?_erase_ne (t : Table key) {k k' : κ} (h : k' ≠ k)
    : (t.erase k).find? k' = t.find? k' := by
  simp [find?, erase, AList.lookup_erase_ne h]

theorem find?_erase (t : Table key) (k k' : κ)
    : (t.erase k).find? k' = if k' = k then none else t.find? k' := by
  split
  . next h =>
    subst h
    simp
  . next h => exact find?_erase_ne t h

theorem add_eq_upsert {t : Table key} {a : α} (h : t.find? (key a) = none)
    : t.add a = t.upsert a := by
  simp [add, h]

theorem add_eq_self {t : Table key} {a b : α} (h : t.find? (key a) = some b) : t.add a = t := by
  simp [add, h]

theorem mem_rows {t : Table key} {a : α} : a ∈ t.rows ↔ t.find? (key a) = some a := by
  unfold rows find?
  constructor
  . intro h
    obtain ⟨⟨k, b⟩, hmem, hb⟩ := List.mem_map.mp h
    dsimp at hb
    subst hb
    have hlook : t.entries.lookup k = some b := AList.mem_lookup_iff.mpr hmem
    rw [t.hkey k b hlook]
    exact hlook
  . intro h
    exact List.mem_map.mpr ⟨⟨key a, a⟩, AList.mem_lookup_iff.mp h, rfl⟩

theorem rows_map_key (t : Table key) : t.rows.map key = t.entries.keys := by
  unfold rows AList.keys List.keys
  rw [List.map_map]
  apply List.map_congr_left
  intro e he
  exact t.hkey e.1 e.2 (AList.mem_lookup_iff.mpr he)

theorem nodup_rows_map_key (t : Table key) : (t.rows.map key).Nodup := by
  rw [rows_map_key]
  exact t.entries.keys_nodup

theorem nodup_rows (t : Table key) : t.rows.Nodup :=
  List.Nodup.of_map key t.nodup_rows_map_key

theorem eq_of_mem_rows {t : Table key} {a b : α} (ha : a ∈ t.rows) (hb : b ∈ t.rows)
    (h : key a = key b) : a = b := by
  rw [mem_rows] at ha hb
  rw [h, hb] at ha
  exact (Option.some.inj ha).symm

theorem mem_rows_upsert {t : Table key} {a b : α}
    : b ∈ (t.upsert a).rows ↔ b = a ∨ (key b ≠ key a ∧ b ∈ t.rows) := by
  rw [mem_rows, mem_rows, find?_upsert]
  split
  . next h =>
    constructor
    . intro hb
      exact .inl (Option.some.inj hb).symm
    . intro hb
      cases hb with
      | inl hb => rw [hb]
      | inr hb => exact absurd h hb.1
  . next h =>
    constructor
    . intro hb
      exact .inr ⟨h, hb⟩
    . intro hb
      cases hb with
      | inl hb => exact absurd (by rw [hb]) h
      | inr hb => exact hb.2

theorem mem_rows_erase {t : Table key} {k : κ} {b : α}
    : b ∈ (t.erase k).rows ↔ key b ≠ k ∧ b ∈ t.rows := by
  rw [mem_rows, mem_rows, find?_erase]
  split
  . next h => simp [h]
  . next h => simp [h]

theorem rows_perm_map {f : α → α} (hkey : ∀ a, key (f a) = key a) {t t' : Table key}
    (hfind : ∀ k, t'.find? k = (t.find? k).map f) : t'.rows.Perm (t.rows.map f) := by
  have hnodup : (t.rows.map f).Nodup := by
    apply List.Nodup.of_map key
    rw [List.map_map, show key ∘ f = key from funext hkey]
    exact t.nodup_rows_map_key
  apply (List.perm_ext_iff_of_nodup t'.nodup_rows hnodup).mpr
  intro a
  rw [mem_rows, hfind, List.mem_map, Option.map_eq_some_iff]
  constructor
  . rintro ⟨b, hb, rfl⟩
    have hk : key b = key (f b) := key_of_find? hb
    rw [← hk] at hb
    exact ⟨b, mem_rows.mpr hb, rfl⟩
  . rintro ⟨b, hb, rfl⟩
    rw [mem_rows] at hb
    rw [hkey]
    exact ⟨b, hb, rfl⟩

/-! The order in which an unsorted query lists the rows is the order of their ranks. -/

def list (t : Table key) (rank : κ → Nat) : List α :=
  t.rows.insertionSort (fun a b => rank (key a) ≤ rank (key b))

theorem list_perm (t : Table key) (rank : κ → Nat) : (t.list rank).Perm t.rows :=
  List.perm_insertionSort _ _

@[simp]
theorem mem_list {t : Table key} {rank : κ → Nat} {a : α} : a ∈ t.list rank ↔ a ∈ t.rows :=
  (t.list_perm rank).mem_iff

theorem pairwise_list (t : Table key) (rank : κ → Nat)
    : (t.list rank).Pairwise fun a b => rank (key a) ≤ rank (key b) := by
  have : Std.Total fun a b : α => rank (key a) ≤ rank (key b) := ⟨fun a b => le_total _ _⟩
  have : IsTrans α fun a b => rank (key a) ≤ rank (key b) := ⟨fun a b c => le_trans⟩
  exact List.pairwise_insertionSort _ _

/--
Where no two keys have the same rank, changing rows in place keeps their order.
-/
theorem list_eq_map {f : α → α} (hkey : ∀ a, key (f a) = key a) {t t' : Table key}
    (hfind : ∀ k, t'.find? k = (t.find? k).map f) {rank : κ → Nat}
    (hrank : Function.Injective rank) : t'.list rank = (t.list rank).map f := by
  have hperm : (t'.list rank).Perm ((t.list rank).map f) :=
    (t'.list_perm rank).trans ((rows_perm_map hkey hfind).trans ((t.list_perm rank).map f).symm)
  apply List.Perm.eq_of_pairwise _ (t'.pairwise_list rank) _ hperm
  . intro a b ha hb hle hge
    have hb' := mem_list.mp (hperm.mem_iff.mpr hb)
    exact eq_of_mem_rows (mem_list.mp ha) hb' (hrank (le_antisymm hle hge))
  . apply List.pairwise_map.mpr
    apply (t.pairwise_list rank).imp
    intro a b hab
    rw [hkey, hkey]
    exact hab

end Table
