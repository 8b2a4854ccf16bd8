import SshProxy.Library.Text

/-! JSON values, and when two of them are alike but for what their strings hold. -/

namespace SshProxy.Library

/-- A value; the entries of an object stand in the order of its map, and a number is its text. -/
inductive Json where
  | null
  | bool (value : Bool)
  | number (value : Text)
  | string (value : Text)
  | array (items : List Json)
  | object (entries : List (Text × Json))

namespace Json

theorem induction (holds : Json → Prop) (items : List Json → Prop) (entries : List (Text × Json) → Prop) (null : holds .null)
    (bool : ∀ value, holds (.bool value)) (number : ∀ value, holds (.number value))
    (string : ∀ value, holds (.string value))
    (array : ∀ list, items list → holds (.array list)) (object : ∀ list, entries list → holds (.object list))
    (nil : items []) (cons : ∀ item rest, holds item → items rest → items (item :: rest))
    (empty : entries []) (entry : ∀ key value rest, holds value → entries rest → entries ((key, value) :: rest))
    (value : Json) : holds value :=
  @Json.rec holds items entries (fun pair => holds pair.2) null bool number string array object nil cons empty
    (fun pair rest => entry pair.1 pair.2 rest) (fun _ _ held => held) value

/-- The entries of an object from its fields; those without a value are left out. -/
def present : List (String × Option Json) → List (Text × Json)
  | [] => []
  | (name, some value) :: rest => (name.toList, value) :: present rest
  | (_, none) :: rest => present rest

variable {fields others : List (String × Option Json)}

theorem not_mem_present {name : String} (fresh : name ∉ fields.map (·.1)) (value : Json) :
    (name.toList, value) ∉ present fields := by
  fun_induction present fields with
  | case1 => exact List.not_mem_nil
  | case2 other _ rest ih =>
    simp only [List.map_cons, List.mem_cons, not_or] at fresh
    simp only [List.mem_cons, Prod.mk.injEq, String.toList_inj, not_or]
    exact ⟨fun same => fresh.1 same.1, ih fresh.2⟩
  | case3 other rest ih => exact ih fun listed => fresh (List.mem_cons_of_mem other listed)

theorem present_inj (same : present fields = present others) (names : fields.map (·.1) = others.map (·.1))
    (distinct : (fields.map (·.1)).Nodup) : fields = others := by
  induction fields generalizing others with
  | nil => exact (List.map_eq_nil_iff.mp names.symm).symm
  | cons field fields ih =>
    obtain ⟨name, value⟩ := field
    obtain ⟨⟨other, otherValue⟩, others, rfl⟩ := List.exists_cons_of_ne_nil (l := others) (by rintro rfl; cases names)
    obtain ⟨rfl, later⟩ : name = other ∧ fields.map (·.1) = others.map (·.1) := List.cons.inj names
    obtain ⟨fresh, apart⟩ : name ∉ fields.map (·.1) ∧ (fields.map (·.1)).Nodup := List.nodup_cons.mp distinct
    cases value with
    | none =>
      cases otherValue with
      | none =>
        change present fields = present others at same
        rw [ih same later apart]
      | some value =>
        change present fields = (name.toList, value) :: present others at same
        exact absurd (same ▸ List.mem_cons_self) (not_mem_present fresh value)
    | some value =>
      cases otherValue with
      | none =>
        change (name.toList, value) :: present fields = present others at same
        exact absurd (same ▸ List.mem_cons_self) (not_mem_present (later ▸ fresh) value)
      | some =>
        obtain ⟨here, rest⟩ := List.cons.inj same
        rw [(Prod.mk.inj here).2, ih rest later apart]

section
variable (hidden : Text → Bool) (enters : Bool → Text → Bool) (strings : Bool → Text → Text → Prop)

mutual

/-- The values have the same shape, and the strings in the same places are related, in the mode that
their place is in: an object's key may change the mode. What stands under a hidden key is free. -/
def Like (mode : Bool) : Json → Json → Prop
  | .null, .null => True
  | .bool value, .bool other => value = other
  | .number value, .number other => value = other
  | .string value, .string other => strings mode value other
  | .array items, .array others => LikeItems mode items others
  | .object entries, .object others => LikeEntries mode entries others
  | _, _ => False
termination_by structural value => value

def LikeItems (mode : Bool) : List Json → List Json → Prop
  | [], [] => True
  | item :: rest, other :: others => Like mode item other ∧ LikeItems mode rest others
  | _, _ => False
termination_by structural items => items

def LikeEntries (mode : Bool) : List (Text × Json) → List (Text × Json) → Prop
  | [], [] => True
  | (key, value) :: rest, (name, other) :: others =>
    key = name ∧ (hidden key = true ∨ Like (enters mode key) value other) ∧ LikeEntries mode rest others
  | _, _ => False
termination_by structural entries => entries

end
end
end Json
end SshProxy.Library
