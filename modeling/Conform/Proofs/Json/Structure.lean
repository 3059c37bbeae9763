import Conform.Json.Basic

namespace Conform

-- The recursor also asks about lists and pairs of values; here these are only members of a container.
@[elab_as_elim]
theorem Json.induction {motive : Json → Prop} (null : motive .null) (bool : ∀ value, motive (.bool value))
    (number : ∀ value, motive (.number value)) (string : ∀ value, motive (.string value))
    (array : ∀ items, (∀ item ∈ items, motive item) → motive (.array items))
    (object : ∀ members : Members, (∀ member ∈ members, motive member.2) → motive (.object members))
    (value : Json) : motive value := by
  refine @Json.rec motive (fun items => ∀ item ∈ items, motive item)
    (fun members => ∀ member ∈ members, motive member.2) (fun member => motive member.2)
    null bool number string array object ?_ ?_ ?_ ?_ ?_ value
  · intro item member
    cases member
  · intro head tail first rest item member
    rcases List.mem_cons.mp member with rfl | later
    · exact first
    · exact rest item later
  · intro member within
    cases within
  · intro head tail first rest member within
    rcases List.mem_cons.mp within with rfl | later
    · exact first
    · exact rest member later
  · exact fun _ _ held => held

-- What a parser gives, and any value whose objects are maps.
inductive Json.KeysDistinct : Json → Prop
  | null : KeysDistinct .null
  | bool : KeysDistinct (.bool value)
  | number : KeysDistinct (.number value)
  | string : KeysDistinct (.string value)
  | array (below : ∀ item ∈ items, KeysDistinct item) : KeysDistinct (.array items)
  | object {members : Members} (distinct : members.keys.Nodup) (below : ∀ member ∈ members, KeysDistinct member.2) :
      KeysDistinct (.object members)

namespace Members

@[simp] theorem keys_nil : keys [] = [] := rfl

@[simp] theorem keys_cons (member : String × Json) (rest : Members) :
    keys (member :: rest) = member.1 :: keys rest := rfl

@[simp] theorem get?_nil (key : String) : get? [] key = none := rfl

theorem get?_cons (member : String × Json) (rest : Members) (key : String) :
    get? (member :: rest) key = if member.1 = key then some member.2 else get? rest key := by
  by_cases same : member.1 = key <;> simp [get?, same]

theorem get?_cons_of_ne {member : String × Json} {key : String} (rest : Members) (other : member.1 ≠ key) :
    get? (member :: rest) key = get? rest key := by
  rw [get?_cons, if_neg other]

theorem get?_eq_none {members : Members} {key : String} : members.get? key = none ↔ key ∉ members.keys := by
  induction members with
  | nil => simp
  | cons member rest ih =>
      rw [get?_cons, keys_cons, List.mem_cons, not_or]
      by_cases same : member.1 = key
      · simp [same]
      · simp [same, ih, Ne.symm same]

theorem mem_keys_of_get? {members : Members} {key : String} {value : Json}
    (found : members.get? key = some value) : key ∈ members.keys := by
  refine Decidable.byContradiction fun absent => ?_
  rw [get?_eq_none.mpr absent] at found
  cases found

theorem exists_get? {members : Members} {key : String} (there : key ∈ members.keys) :
    ∃ value, members.get? key = some value := by
  cases found : members.get? key with
  | some value => exact ⟨value, rfl⟩
  | none => exact absurd there (get?_eq_none.mp found)

theorem mem_of_get? {members : Members} {key : String} {value : Json} (found : members.get? key = some value) :
    (key, value) ∈ members := by
  induction members with
  | nil => cases found
  | cons member rest ih =>
      rw [get?_cons] at found
      split at found
      · rename_i same
        cases found
        exact List.mem_cons.mpr (.inl (by rw [← same]))
      · exact List.mem_cons_of_mem _ (ih found)

theorem get?_of_mem {members : Members} (distinct : members.keys.Nodup) {key : String} {value : Json}
    (within : (key, value) ∈ members) : members.get? key = some value := by
  induction members with
  | nil => cases within
  | cons member rest ih =>
      rw [keys_cons, List.nodup_cons] at distinct
      rcases List.mem_cons.mp within with rfl | later
      · rw [get?_cons, if_pos rfl]
      · rw [get?_cons_of_ne, ih distinct.2 later]
        rintro rfl
        exact distinct.1 (List.mem_map.mpr ⟨_, later, rfl⟩)

theorem has_eq_true {members : Members} {key : String} : members.has key = true ↔ key ∈ members.keys := by
  simp [has, keys]

theorem put_of_not_mem {members : Members} {key : String} (absent : key ∉ members.keys) (value : Json) :
    members.put key value = members ++ [(key, value)] := by
  induction members with
  | nil => rfl
  | cons member rest ih =>
      rw [keys_cons, List.mem_cons, not_or] at absent
      rw [put, if_neg (by simpa using Ne.symm absent.1), ih absent.2, List.cons_append]

theorem settle_of_nodup {members : Members} (distinct : members.keys.Nodup) : members.settle = members := by
  have step : ∀ rest settled : Members, (keys (settled ++ rest)).Nodup →
      rest.foldl (fun settled member => settled.put member.1 member.2) settled = settled ++ rest := by
    intro rest
    induction rest with
    | nil => exact fun settled _ => (List.append_nil settled).symm
    | cons member rest ih =>
        intro settled distinct
        have absent : member.1 ∉ settled.keys := by
          intro there
          rw [keys, List.map_append, List.nodup_append] at distinct
          exact distinct.2.2 _ there _ (List.mem_cons_self ..) rfl
        rw [List.foldl_cons, put_of_not_mem absent, ih _ (by simpa using distinct), List.append_assoc]
        rfl
  exact step members [] distinct

end Members

end Conform
