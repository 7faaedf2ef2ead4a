import Mathlib.Data.String.Basic
import SandboxProbe.Proofs.Json.RoundTrip
import SandboxProbe.Proofs.Text.Order

/-!
# Sorting keys gives a canonical form

Sorting puts the fields of every object in ascending order of their keys and does nothing else. Two
values are `Rearranged` if they differ in the order of fields alone, at whatever depth, and
`sortKeys_canonical` says that sorting chooses one value among all those that are rearrangements of each
other.
-/

namespace SandboxProbe.Json

/-- A field with its value sorted. -/
def sortValue (f : String × Json) : String × Json :=
  (f.1, sortKeys f.2)

mutual

/-- At every depth the keys of an object ascend strictly, byte by byte. -/
def Ascending : Json → Prop
  | .object fields =>
    (fields.map fun f => Text.Utf8.encode f.1).Pairwise (· < ·) ∧ AscendingFields fields
  | _ => True

def AscendingFields : List (String × Json) → Prop
  | [] => True
  | (_, v) :: fs => Ascending v ∧ AscendingFields fs

end

/-- The values differ in the order of fields alone, in any of their objects. -/
inductive Rearranged : Json → Json → Prop
  | refl (v : Json) : Rearranged v v
  | trans {u v w : Json} : Rearranged u v → Rearranged v w → Rearranged u w
  | fields {fs gs : List (String × Json)} : fs.Perm gs → Rearranged (.object fs) (.object gs)
  | inside {before after : List (String × Json)} {k : String} {v w : Json} : Rearranged v w →
      Rearranged (.object (before ++ (k, v) :: after)) (.object (before ++ (k, w) :: after))

theorem Rearranged.symm {v w : Json} (h : Rearranged v w) : Rearranged w v := by
  induction h with
  | refl v => exact .refl v
  | trans _ _ ih ih' => exact ih'.trans ih
  | fields hp => exact .fields hp.symm
  | inside _ ih => exact .inside ih

theorem ascendingFields_iff {fields : List (String × Json)} :
    AscendingFields fields ↔ ∀ f ∈ fields, Ascending f.2 := by
  induction fields with
  | nil => simp [AscendingFields]
  | cons f fs ih => simp [AscendingFields, ih]

theorem distinctFields_iff {fields : List (String × Json)} :
    DistinctFields fields ↔ ∀ f ∈ fields, Distinct f.2 := by
  induction fields with
  | nil => simp [DistinctFields]
  | cons f fs ih => simp [DistinctFields, ih]

/-! ## Sorting one object -/

theorem insertField_perm (f : String × Json) (fs : List (String × Json)) :
    (insertField f fs).Perm (f :: fs) := by
  induction fs with
  | nil => exact .refl _
  | cons g gs ih =>
    rw [insertField]
    split
    · exact .refl _
    · exact (ih.cons g).trans (.swap f g gs)

theorem sortFields_perm (fields : List (String × Json)) :
    (sortFields fields).Perm (fields.map sortValue) := by
  induction fields with
  | nil => rw [sortFields]; exact .refl _
  | cons f fs ih =>
    rw [sortFields]
    exact (insertField_perm _ _).trans (ih.cons _)

theorem map_fst_sortValue (fields : List (String × Json)) :
    (fields.map sortValue).map Prod.fst = fields.map Prod.fst := by
  rw [List.map_map]
  rfl

theorem keys_perm (fields : List (String × Json)) :
    ((sortFields fields).map Prod.fst).Perm (fields.map Prod.fst) := by
  have h := (sortFields_perm fields).map Prod.fst
  rwa [map_fst_sortValue] at h

/-- One field's key is below the other's. -/
def Below (f g : String × Json) : Prop :=
  f.1 < g.1

theorem pairwise_insertField {f : String × Json} {fs : List (String × Json)}
    (hs : fs.Pairwise Below) (hf : f.1 ∉ fs.map Prod.fst) : (insertField f fs).Pairwise Below := by
  induction fs with
  | nil => simp [insertField]
  | cons g gs ih =>
    obtain ⟨hg, hgs⟩ := List.pairwise_cons.mp hs
    rw [List.map_cons, List.mem_cons, not_or] at hf
    rw [insertField]
    split
    · rename_i hlt
      refine List.pairwise_cons.mpr ⟨fun x hx => ?_, hs⟩
      rcases List.mem_cons.mp hx with rfl | hx
      · exact hlt
      · exact lt_trans hlt (hg x hx)
    · rename_i hle
      refine List.pairwise_cons.mpr ⟨fun x hx => ?_, ih hgs hf.2⟩
      rcases List.mem_cons.mp ((insertField_perm f gs).mem_iff.mp hx) with rfl | hx
      · exact lt_of_le_of_ne (not_lt.mp hle) (Ne.symm hf.1)
      · exact hg x hx

theorem pairwise_sortFields {fields : List (String × Json)} (hd : (fields.map Prod.fst).Nodup) :
    (sortFields fields).Pairwise Below := by
  induction fields with
  | nil => rw [sortFields]; exact .nil
  | cons f fs ih =>
    obtain ⟨hf, hfs⟩ := List.nodup_cons.mp hd
    rw [sortFields]
    exact pairwise_insertField (ih hfs) fun h => hf ((keys_perm fs).mem_iff.mp h)

/-- Fields with distinct keys have one order in which their keys ascend. -/
theorem sortFields_congr {fs gs : List (String × Json)} (hd : (fs.map Prod.fst).Nodup)
    (h : (fs.map sortValue).Perm (gs.map sortValue)) : sortFields fs = sortFields gs := by
  have hkeys := h.map Prod.fst
  rw [map_fst_sortValue, map_fst_sortValue] at hkeys
  have hasymm : ∀ f g : String × Json, Below f g → Below g f → f = g :=
    fun f g hfg hgf => absurd hgf (lt_asymm hfg)
  refine List.Perm.eq_of_pairwise (fun f g _ _ => hasymm f g) (pairwise_sortFields hd)
    (pairwise_sortFields (hkeys.nodup_iff.mp hd)) ?_
  exact (sortFields_perm fs).trans (h.trans (sortFields_perm gs).symm)

/-! ## Sorting whole values -/

theorem sortKeys_scalar {v : Json} (h : ∀ fields, v ≠ .object fields) : sortKeys v = v := by
  cases v with
  | object fields => exact absurd rfl (h fields)
  | _ => simp only [sortKeys]

mutual

theorem rearranged_sortKeys : ∀ v : Json, Rearranged v (sortKeys v)
  | .null => by simp only [sortKeys]; exact .refl _
  | .bool _ => by simp only [sortKeys]; exact .refl _
  | .number _ => by simp only [sortKeys]; exact .refl _
  | .string _ => by simp only [sortKeys]; exact .refl _
  | .object fields => by
    rw [sortKeys]
    exact (rearranged_sortValues [] fields).trans (.fields (sortFields_perm fields).symm)

/-- The values are sorted one after the other, behind those that are sorted already. -/
theorem rearranged_sortValues (done : List (String × Json)) : ∀ fields : List (String × Json),
    Rearranged (.object (done ++ fields)) (.object (done ++ fields.map sortValue))
  | [] => .refl _
  | (k, v) :: fs => by
    have hfirst : Rearranged (.object (done ++ (k, v) :: fs))
        (.object (done ++ (k, sortKeys v) :: fs)) := .inside (rearranged_sortKeys v)
    have hrest := rearranged_sortValues (done ++ [(k, sortKeys v)]) fs
    simp only [List.append_assoc, List.singleton_append] at hrest
    exact hfirst.trans hrest

end

mutual

theorem ascending_sortKeys : ∀ v : Json, Distinct v → Ascending (sortKeys v)
  | .null, _ => by simp only [sortKeys, Ascending]
  | .bool _, _ => by simp only [sortKeys, Ascending]
  | .number _, _ => by simp only [sortKeys, Ascending]
  | .string _, _ => by simp only [sortKeys, Ascending]
  | .object fields, hd => by
    rw [Distinct] at hd
    rw [sortKeys, Ascending, List.pairwise_map, ascendingFields_iff]
    refine ⟨(pairwise_sortFields hd.1).imp fun hbelow => Text.Utf8.encode_lt_iff.mpr hbelow, ?_⟩
    intro f hf
    obtain ⟨g, hg, rfl⟩ := List.mem_map.mp ((sortFields_perm fields).mem_iff.mp hf)
    exact ascending_sortValues fields hd.2 g hg

theorem ascending_sortValues : ∀ fields : List (String × Json), DistinctFields fields →
    ∀ f ∈ fields, Ascending (sortKeys f.2)
  | [], _, f, hf => by cases hf
  | (k, v) :: fs, hd, f, hf => by
    rw [DistinctFields] at hd
    rcases List.mem_cons.mp hf with rfl | hf
    · exact ascending_sortKeys v hd.1
    · exact ascending_sortValues fs hd.2 f hf

end

/-- What is rearranged keeps its keys distinct, and is sorted alike. -/
theorem Rearranged.sortKeys_eq {v w : Json} (h : Rearranged v w) (hd : Distinct v) :
    Distinct w ∧ sortKeys v = sortKeys w := by
  induction h with
  | refl v => exact ⟨hd, rfl⟩
  | trans _ _ ih ih' =>
    obtain ⟨hv, heq⟩ := ih hd
    obtain ⟨hw, heq'⟩ := ih' hv
    exact ⟨hw, heq.trans heq'⟩
  | @fields fs gs hp =>
    rw [Distinct, distinctFields_iff] at hd
    rw [Distinct, distinctFields_iff, sortKeys, sortKeys, sortFields_congr hd.1 (hp.map sortValue)]
    have hkeys : (gs.map Prod.fst).Nodup := (hp.map Prod.fst).nodup_iff.mp hd.1
    exact ⟨⟨hkeys, fun f hf => hd.2 f (hp.mem_iff.mpr hf)⟩, rfl⟩
  | @inside before after k v w _ ih =>
    rw [Distinct, distinctFields_iff] at hd
    obtain ⟨hkeys, hvalues⟩ := hd
    obtain ⟨hw, heq⟩ := ih (hvalues (k, v) (by simp))
    have hsorted : (before ++ (k, v) :: after).map sortValue =
        (before ++ (k, w) :: after).map sortValue := by
      simp only [List.map_append, List.map_cons, sortValue, heq]
    rw [Distinct, distinctFields_iff, sortKeys, sortKeys,
      sortFields_congr hkeys (.of_eq hsorted)]
    refine ⟨⟨by simpa using hkeys, fun f hf => ?_⟩, rfl⟩
    rcases List.mem_append.mp hf with hf | hf
    · exact hvalues f (List.mem_append_left _ hf)
    · rcases List.mem_cons.mp hf with rfl | hf
      · exact hw
      · exact hvalues f (List.mem_append_right _ (List.mem_cons_of_mem _ hf))

theorem mem_sortFields {fields : List (String × Json)} {k : String} {w : Json} :
    (k, w) ∈ sortFields fields ↔ ∃ u, (k, u) ∈ fields ∧ w = sortKeys u := by
  rw [(sortFields_perm fields).mem_iff, List.mem_map]
  constructor
  · rintro ⟨⟨k', u⟩, hu, heq⟩
    obtain ⟨rfl, rfl⟩ := Prod.mk.inj heq
    exact ⟨u, hu, rfl⟩
  · rintro ⟨u, hu, rfl⟩
    exact ⟨(k, u), hu, rfl⟩

/-- Sorting leaves the keys of every object in strictly ascending order, keeps all keys, gives each the
sorted form of the value it had, and changes no value that is not an object. What is sorted stays as it
is, and two values are sorted alike exactly if one is a rearrangement of the other. -/
theorem sortKeys_canonical (v : Json) (hd : Distinct v) :
    Ascending (sortKeys v) ∧
    (∀ fields, v = .object fields → ∃ sorted, sortKeys v = .object sorted ∧
      (sorted.map Prod.fst).Perm (fields.map Prod.fst) ∧
      ∀ k w, (k, w) ∈ sorted ↔ ∃ u, (k, u) ∈ fields ∧ w = sortKeys u) ∧
    ((∀ fields, v ≠ .object fields) → sortKeys v = v) ∧
    sortKeys (sortKeys v) = sortKeys v ∧
    ∀ w, sortKeys v = sortKeys w ↔ Rearranged v w := by
  refine ⟨ascending_sortKeys v hd, ?_, sortKeys_scalar, ?_, ?_⟩
  · rintro fields rfl
    exact ⟨sortFields fields, by rw [sortKeys], keys_perm fields, fun k w => mem_sortFields⟩
  · exact ((rearranged_sortKeys v).sortKeys_eq hd).2.symm
  · intro w
    constructor
    · intro heq
      have hw : Rearranged (sortKeys v) w := heq ▸ (rearranged_sortKeys w).symm
      exact (rearranged_sortKeys v).trans hw
    · intro h
      exact (h.sortKeys_eq hd).2

/-- Two objects that differ in the order of fields at both depths. -/
theorem sortKeys_canonical_nested :
    let v := Json.object
      [("b", .object [("z", .number 1), ("a", .null)]), ("a", .bool true)]
    let w := Json.object
      [("a", .bool true), ("b", .object [("a", .null), ("z", .number 1)])]
    Distinct v ∧ sortKeys v = w ∧ Ascending (sortKeys v) ∧ Rearranged v w := by
  intro v w
  have hd : Distinct v := by simp [v, Distinct, DistinctFields]
  have hv : sortKeys v = w := by
    simp only [v, w, sortKeys, sortFields, insertField, String.reduceLT, ↓reduceIte]
  have hw : sortKeys w = w := by
    simp only [w, sortKeys, sortFields, insertField, String.reduceLT, ↓reduceIte]
  obtain ⟨hascending, -, -, -, halike⟩ := sortKeys_canonical v hd
  exact ⟨hd, hv, hascending, (halike w).mp (hv.trans hw.symm)⟩

end SandboxProbe.Json
