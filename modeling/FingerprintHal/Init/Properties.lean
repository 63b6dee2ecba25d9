/-
  init_shennong.cpp: what is overridden among the system properties at boot.

  The model of the device, its name and its variant (the SKU the bootloader reports) are
  written for every partition, whether a property is there already or not. A property that
  is there takes a value below a maximal length only; a read-only one that is new takes a
  value of any length. `vendor_load_properties_get` says what every property holds then,
  and `vendor_load_properties_again` that doing it once more changes nothing.

  The property area belongs to bionic, with `GetProperty` of android-base over it, and is
  not part of the repository; `PropertyArea` has the functions the code calls, and
  `PropertyArea.Lawful` what it relies on.
-/
import FingerprintHal.Lib.Writes

namespace VendorInit

open Lib

/-! ## The property area -/

/-- `PROP_VALUE_MAX`: values with their terminator are no longer, if they are updated. -/
def PROP_VALUE_MAX : Nat := 92

/-- The functions the code calls, and the lookup they are about. `ι` are the pointers to
    entries (`prop_info*`). -/
structure PropertyArea (σ ι : Type) where
  lookup : σ → String → Option String
  GetProperty : String → String → σ → String
  find : σ → String → Option ι
  update : ι → String → σ → σ
  add : String → String → σ → σ

/-- The property takes the value: it is new and read-only, or the value is short. -/
def Takes (name : String) (old : Option String) (value : String) : Prop :=
  value.utf8ByteSize < PROP_VALUE_MAX ∨ (old = none ∧ name.startsWith "ro." = true)

instance (name : String) (old : Option String) : DecidablePred (Takes name old) :=
  fun value => inferInstanceAs
    (Decidable (value.utf8ByteSize < PROP_VALUE_MAX ∨ (_ ∧ name.startsWith "ro." = true)))

/-- What the code relies on: `GetProperty` reads its key, with the default for what is
    absent or empty, `find` finds what is there, and `update` and `add` write the property
    they are called for, when it takes the value, and no other. -/
structure PropertyArea.Lawful {σ ι : Type} (A : PropertyArea σ ι) : Prop where
  got : ∀ s key default_value, A.GetProperty key default_value s =
    match A.lookup s key with
    | some value => if value = "" then default_value else value
    | none => default_value
  found : ∀ s name, (A.find s name).isSome = (A.lookup s name).isSome
  updated : ∀ s name pi value, A.find s name = some pi →
    Takes name (A.lookup s name) value → A.lookup (A.update pi value s) name = some value
  not_updated : ∀ s name pi value, A.find s name = some pi →
    ¬ Takes name (A.lookup s name) value →
      A.lookup (A.update pi value s) name = A.lookup s name
  update_frame : ∀ s name pi value name', A.find s name = some pi → name' ≠ name →
    A.lookup (A.update pi value s) name' = A.lookup s name'
  added : ∀ s name value, A.find s name = none → Takes name (A.lookup s name) value →
    A.lookup (A.add name value s) name = some value
  not_added : ∀ s name value, A.find s name = none → ¬ Takes name (A.lookup s name) value →
    A.lookup (A.add name value s) name = A.lookup s name
  add_frame : ∀ s name value name', A.find s name = none → name' ≠ name →
    A.lookup (A.add name value s) name' = A.lookup s name'

/-! ## The code -/

/-- The partitions whose properties are overridden. -/
def source_partitions : List String :=
  ["", "bootimage.", "odm.", "product.", "system.", "system_dlkm.", "system_ext.", "vendor.",
    "vendor_dlkm."]

section Code

variable {σ ι : Type} (A : PropertyArea σ ι)

def property_override (prop value : String) (s : σ) : σ :=
  match A.find s prop with
  | some pi => A.update pi value s
  | none => A.add prop value s

def set_build_prop (prop value : String) (s : σ) : σ := property_override A prop value s

def set_ro_build_prop (prop value : String) (s : σ) : σ :=
  source_partitions.foldl
    (fun s source => property_override A ("ro.product." ++ source ++ prop) value s) s

def vendor_load_properties (s : σ) : σ :=
  let sku := A.GetProperty "ro.boot.hardware.sku" "" s
  let s := set_ro_build_prop A "device" sku s
  let s := set_ro_build_prop A "model" "23116PN5BC" s
  let s := set_ro_build_prop A "name" "shennong" s
  set_build_prop A "ro.boot.hardware.revision" sku s

end Code

/-! ## What is written -/

/-- A property of each partition, with one value for all of them. -/
def forPartitions (prop value : String) : List (String × String) :=
  source_partitions.map fun source => ("ro.product." ++ source ++ prop, value)

/-- All that is overridden, when the SKU is `sku`. -/
def overridden (sku : String) : List (String × String) :=
  forPartitions "device" sku ++ forPartitions "model" "23116PN5BC" ++
    forPartitions "name" "shennong" ++ [("ro.boot.hardware.revision", sku)]

theorem overridden_names (sku : String) :
    (overridden sku).map Prod.fst = (overridden "").map Prod.fst := rfl

/-- No property is written twice. -/
theorem overridden_nodup (sku : String) : ((overridden sku).map Prod.fst).Nodup := by
  rw [overridden_names]
  decide +kernel

/-- They are all read-only. -/
theorem overridden_ro {sku name : String} (h : name ∈ (overridden sku).map Prod.fst) :
    name.startsWith "ro." = true := by
  have hall : ∀ n ∈ (overridden "").map Prod.fst, n.startsWith "ro." = true := by
    decide +kernel
  rw [overridden_names] at h
  exact hall name h

section Written

variable {σ ι : Type} {A : PropertyArea σ ι}

/-- `property_override` is one write, whether the property is there or not. -/
theorem property_override_law (hA : A.Lawful) :
    WriteLaw A.lookup (property_override A) Takes where
  taken s name value h := by
    unfold property_override
    cases hf : A.find s name with
    | none => exact hA.added s name value hf h
    | some pi => exact hA.updated s name pi value hf h
  refused s name value h := by
    unfold property_override
    cases hf : A.find s name with
    | none => exact hA.not_added s name value hf h
    | some pi => exact hA.not_updated s name pi value hf h
  frame s name value name' h := by
    unfold property_override
    cases hf : A.find s name with
    | none => exact hA.add_frame s name value name' hf h
    | some pi => exact hA.update_frame s name pi value name' hf h

theorem set_ro_build_prop_writes (prop value : String) (s : σ) :
    set_ro_build_prop A prop value s =
      writes (property_override A) (forPartitions prop value) s := by
  unfold set_ro_build_prop writes forPartitions
  rw [List.foldl_map]

/-- The whole of it is one list of writes. -/
theorem vendor_load_properties_writes (s : σ) :
    vendor_load_properties A s = writes (property_override A)
      (overridden (A.GetProperty "ro.boot.hardware.sku" "" s)) s := by
  unfold vendor_load_properties overridden set_build_prop
  simp only [set_ro_build_prop_writes, writes_append, writes_cons, writes_nil]

/-- A read-only property takes what is short, or new. -/
theorem takes_iff {name value sku : String} {old : Option String}
    (h : (name, value) ∈ overridden sku) :
    Takes name old value ↔ value.utf8ByteSize < PROP_VALUE_MAX ∨ old = none := by
  have hro := overridden_ro (List.mem_map.mpr ⟨_, h, rfl⟩)
  exact or_congr Iff.rfl (and_iff_left hro)

/-- What an overridden property holds afterwards. -/
theorem lookup_overridden (hA : A.Lawful) {s : σ} {name value : String}
    (h : (name, value) ∈ overridden (A.GetProperty "ro.boot.hardware.sku" "" s)) :
    A.lookup (vendor_load_properties A s) name =
      if value.utf8ByteSize < PROP_VALUE_MAX ∨ A.lookup s name = none then some value
      else A.lookup s name := by
  rw [vendor_load_properties_writes]
  obtain ⟨htaken, hrefused⟩ :=
    get_writes_of_mem (property_override_law hA) (s := s) (overridden_nodup _) h
  split
  · next ht => exact htaken ((takes_iff h).mpr ht)
  · next ht => exact hrefused fun hn => ht ((takes_iff h).mp hn)

/-- And what any other one holds. -/
theorem lookup_other (hA : A.Lawful) {s : σ} {name : String}
    (h : name ∉ (overridden "").map Prod.fst) :
    A.lookup (vendor_load_properties A s) name = A.lookup s name := by
  rw [vendor_load_properties_writes]
  rw [← overridden_names (A.GetProperty "ro.boot.hardware.sku" "" s)] at h
  exact get_writes_of_not_mem (property_override_law hA) h

end Written

/-! ## The properties afterwards -/

/-- **What is overridden.** Every property of the table holds its value afterwards, if
    that is short or the property was absent, and what it held before otherwise; all other
    properties are untouched. -/
theorem vendor_load_properties_get {σ ι : Type} {A : PropertyArea σ ι} (hA : A.Lawful) (s : σ) :
    let sku := A.GetProperty "ro.boot.hardware.sku" "" s
    (∀ name value, (name, value) ∈ overridden sku →
      A.lookup (vendor_load_properties A s) name =
        if value.utf8ByteSize < PROP_VALUE_MAX ∨ A.lookup s name = none then some value
        else A.lookup s name) ∧
    ∀ name, name ∉ (overridden sku).map Prod.fst →
      A.lookup (vendor_load_properties A s) name = A.lookup s name :=
  ⟨fun _ _ h => lookup_overridden hA h, fun _ h => lookup_other hA h⟩

/-- **Once is enough.** To load the properties a second time changes no property. -/
theorem vendor_load_properties_again {σ ι : Type} {A : PropertyArea σ ι} (hA : A.Lawful) (s : σ)
    (name : String) :
    A.lookup (vendor_load_properties A (vendor_load_properties A s)) name =
      A.lookup (vendor_load_properties A s) name := by
  -- the SKU that is read is not among what is written
  have hsku : A.GetProperty "ro.boot.hardware.sku" "" (vendor_load_properties A s) =
      A.GetProperty "ro.boot.hardware.sku" "" s := by
    rw [hA.got, hA.got, lookup_other hA (by decide +kernel)]
  by_cases h : name ∈ (overridden (A.GetProperty "ro.boot.hardware.sku" "" s)).map Prod.fst
  · obtain ⟨⟨_, value⟩, hmem, rfl⟩ := List.mem_map.mp h
    have hmem' := hmem
    rw [← hsku] at hmem'
    rw [lookup_overridden hA hmem']
    split
    · next ht =>
        rcases ht with ht | ht
        · rw [lookup_overridden hA hmem, if_pos (Or.inl ht)]
        · rw [lookup_overridden hA hmem] at ht ⊢
          split at ht
          · cases ht
          · next hn => exact absurd (Or.inr ht) hn
    · rfl
  · exact lookup_other hA h

/-! ## A property area -/

/-- The area as a table, with the name of an entry for its pointer. -/
def table : PropertyArea (String → Option String) String where
  lookup s name := s name
  GetProperty key default_value s :=
    match s key with
    | some value => if value = "" then default_value else value
    | none => default_value
  find s name := (s name).map fun _ => name
  update pi value s :=
    if value.utf8ByteSize < PROP_VALUE_MAX then fun name => if name = pi then some value else s name
    else s
  add prop value s :=
    if value.utf8ByteSize < PROP_VALUE_MAX ∨ prop.startsWith "ro." = true then
      fun name => if name = prop then some value else s name
    else s

theorem table_lawful : table.Lawful where
  got _ _ _ := rfl
  found s name := by simp [table]
  updated s name pi value h ht := by
    obtain ⟨old, hold, rfl⟩ := Option.map_eq_some_iff.mp h
    have hs : value.utf8ByteSize < PROP_VALUE_MAX := ht.resolve_right fun hn => by
      rw [show table.lookup s name = some old from hold] at hn
      cases hn.1
    simp [table, hs]
  not_updated s name pi value h ht := by
    have hs : ¬ value.utf8ByteSize < PROP_VALUE_MAX := fun hn => ht (Or.inl hn)
    simp [table, hs]
  update_frame s name pi value name' h hne := by
    obtain ⟨old, hold, rfl⟩ := Option.map_eq_some_iff.mp h
    simp only [table]
    split
    · exact if_neg hne
    · rfl
  added s name value h ht := by
    have hs : value.utf8ByteSize < PROP_VALUE_MAX ∨ name.startsWith "ro." = true :=
      ht.imp_right And.right
    simp only [table]
    rw [if_pos hs, if_pos rfl]
  not_added s name value h ht := by
    have hnone : table.lookup s name = none := Option.map_eq_none_iff.mp h
    have hs : ¬ (value.utf8ByteSize < PROP_VALUE_MAX ∨ name.startsWith "ro." = true) :=
      fun hn => ht (hn.imp_right fun hro => ⟨hnone, hro⟩)
    simp only [table]
    rw [if_neg hs]
  add_frame s name value name' h hne := by
    simp only [table]
    split
    · exact if_neg hne
    · rfl

/-- What the bootloader and the image leave: the SKU, and a device name. -/
def imageProperties : String → Option String
  | "ro.boot.hardware.sku" => some "shennong"
  | "ro.product.odm.device" => some "generic"
  | _ => none

theorem vendor_load_properties_get_odm :
    table.lookup (vendor_load_properties table imageProperties) "ro.product.odm.device" =
      some "shennong" :=
  (vendor_load_properties_get table_lawful imageProperties).1 _ "shennong" (by decide +kernel)

theorem vendor_load_properties_again_odm :
    table.lookup (vendor_load_properties table (vendor_load_properties table imageProperties))
        "ro.product.odm.device" =
      table.lookup (vendor_load_properties table imageProperties) "ro.product.odm.device" :=
  vendor_load_properties_again table_lawful imageProperties _

end VendorInit
