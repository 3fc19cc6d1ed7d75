import StructScript.Go.File
import StructScript.Proofs.CompanionShape

/-! # The marks of local names

    Every bare name in a type has a mark that tells whether its file declares
    it.  `TypeExpr.bind` sets all marks of a type at once.  This file has the laws
    of setting marks, and shows that companions do not look at them: the
    companion of a declaration with other marks is the companion with other
    marks (`Declaration.companion?_bind`).  Only the wording of a fault shows
    marks, so the laws compare outcomes without their faults. -/

namespace StructScript

/-- A field with the names of a scope marked. -/
def Field.bind (scope : List String) (field : Field) : Field :=
  { field with type := field.type.bind scope }

/-- A declaration with the names of a scope marked. -/
def Declaration.bind (scope : List String) (declaration : Declaration) : Declaration :=
  { declaration with type := declaration.type.bind scope }

theorem bindFields_eq_map (scope : List String) (fields : List Field) :
    bindFields scope fields = fields.map (Field.bind scope) := by
  induction fields with
  | nil => rw [bindFields, List.map_nil]
  | cons field rest ih =>
      obtain ⟨names, type, tag⟩ := field
      rw [bindFields, ih, List.map_cons]
      rfl

theorem bindTypes_eq_map (scope : List String) (types : List TypeExpr) :
    bindTypes scope types = types.map (TypeExpr.bind scope) := by
  induction types with
  | nil => rw [bindTypes, List.map_nil]
  | cons type rest ih => rw [bindTypes, ih, List.map_cons]

mutual

/-- Marks that are set twice are those that are set last. -/
theorem TypeExpr.bind_bind (first second : List String) :
    ∀ (type : TypeExpr), (type.bind first).bind second = type.bind second
  | .named name _ => by simp only [TypeExpr.bind]
  | .pointer inner => by simp only [TypeExpr.bind, inner.bind_bind first second]
  | .slice element => by simp only [TypeExpr.bind, element.bind_bind first second]
  | .bytes => by simp only [TypeExpr.bind]
  | .map key value => by
      simp only [TypeExpr.bind, key.bind_bind first second, value.bind_bind first second]
  | .struct fields => by simp only [TypeExpr.bind, bindFields_bindFields first second fields]
  | .selector _ _ => by simp only [TypeExpr.bind]
  | .generic base arguments => by
      simp only [TypeExpr.bind, base.bind_bind first second,
        bindTypes_bindTypes first second arguments]
  | .any => by simp only [TypeExpr.bind]
  | .other _ _ => by simp only [TypeExpr.bind]

/-- Of two scopes, fields are bound to the last. -/
theorem bindFields_bindFields (first second : List String) :
    ∀ (fields : List Field),
      bindFields second (bindFields first fields) = bindFields second fields
  | [] => by simp only [bindFields]
  | ⟨_, type, _⟩ :: rest => by
      simp only [bindFields, type.bind_bind first second, bindFields_bindFields first second rest]

theorem bindTypes_bindTypes (first second : List String) :
    ∀ (types : List TypeExpr), bindTypes second (bindTypes first types) = bindTypes second types
  | [] => by simp only [bindTypes]
  | type :: rest => by
      simp only [bindTypes, type.bind_bind first second, bindTypes_bindTypes first second rest]

end

/-- The mark of a name in a scope. -/
def markIn (scope : List String) (mention : String × Bool) : String × Bool :=
  (mention.1, scope.contains mention.1)

mutual

/-- Setting marks changes the marks of the names in a type, and nothing else about
    them. -/
theorem TypeExpr.mentions_bind (scope : List String) :
    ∀ (type : TypeExpr), (type.bind scope).mentions = type.mentions.map (markIn scope)
  | .named name _ => by
      simp only [TypeExpr.bind, TypeExpr.mentions, List.map_cons, List.map_nil, markIn]
  | .pointer inner => by simp only [TypeExpr.bind, TypeExpr.mentions, inner.mentions_bind scope]
  | .slice element => by
      simp only [TypeExpr.bind, TypeExpr.mentions, element.mentions_bind scope]
  | .bytes => by simp only [TypeExpr.bind, TypeExpr.mentions, List.map_nil]
  | .map key value => by
      simp only [TypeExpr.bind, TypeExpr.mentions, key.mentions_bind scope,
        value.mentions_bind scope, List.map_append]
  | .struct fields => by
      simp only [TypeExpr.bind, TypeExpr.mentions, mentionsOfFields_bindFields scope fields]
  | .selector _ _ => by simp only [TypeExpr.bind, TypeExpr.mentions, List.map_nil]
  | .generic base arguments => by
      simp only [TypeExpr.bind, TypeExpr.mentions, base.mentions_bind scope,
        mentionsOfTypes_bindTypes scope arguments, List.map_append]
  | .any => by simp only [TypeExpr.bind, TypeExpr.mentions, List.map_nil]
  | .other _ _ => by simp only [TypeExpr.bind, TypeExpr.mentions, List.map_nil]

/-- Binding fields marks the names that they mention. -/
theorem mentionsOfFields_bindFields (scope : List String) :
    ∀ (fields : List Field),
      mentionsOfFields (bindFields scope fields) = (mentionsOfFields fields).map (markIn scope)
  | [] => by simp only [bindFields, mentionsOfFields, List.map_nil]
  | ⟨_, type, _⟩ :: rest => by
      simp only [bindFields, mentionsOfFields, type.mentions_bind scope,
        mentionsOfFields_bindFields scope rest, List.map_append]

theorem mentionsOfTypes_bindTypes (scope : List String) :
    ∀ (types : List TypeExpr),
      mentionsOfTypes (bindTypes scope types) = (mentionsOfTypes types).map (markIn scope)
  | [] => by simp only [bindTypes, mentionsOfTypes, List.map_nil]
  | type :: rest => by
      simp only [bindTypes, mentionsOfTypes, type.mentions_bind scope,
        mentionsOfTypes_bindTypes scope rest, List.map_append]

end

/-- After marks are set, every bare name of a type has the mark of the scope. -/
theorem TypeExpr.mark_of_mention_bind {scope : List String} {type : TypeExpr} {name : String}
    {mark : Bool} (h : (name, mark) ∈ (type.bind scope).mentions) : mark = true ↔ name ∈ scope := by
  rw [TypeExpr.mentions_bind] at h
  obtain ⟨⟨original, before⟩, -, hmark⟩ := List.mem_map.mp h
  obtain ⟨rfl, rfl⟩ := Prod.mk.inj hmark
  exact List.contains_iff_mem

/-! ## Companions do not look at marks -/

/-- Marks make no difference to whether a type can be updated. -/
theorem isUpdatable_bind (scope : List String) (type : TypeExpr) :
    (type.bind scope).isUpdatable = type.isUpdatable := by
  cases type with
  | slice element => cases element <;> simp only [TypeExpr.bind, TypeExpr.isUpdatable]
  | _ => simp only [TypeExpr.bind, TypeExpr.isUpdatable]

/-- The update of a bound type is bound. -/
theorem updateField_bind (scope : List String) (type : TypeExpr) (jsonName name : String) :
    updateField (type.bind scope) jsonName name = (updateField type jsonName name).bind scope := by
  unfold updateField Field.bind
  simp only [TypeExpr.bind]

theorem Field.updates_bind (scope : List String) (field : Field) :
    (field.bind scope).updates.toOption
      = field.updates.toOption.map (List.map (Field.bind scope)) := by
  obtain ⟨names, type, tag⟩ := field
  show (Field.updates ⟨names, type.bind scope, tag⟩).toOption = _
  rw [Field.toOption_updates, Field.toOption_updates, isUpdatable_bind]
  cases tag with
  | none => rfl
  | some literal =>
      simp only
      cases (StructTag.parseLiteral literal).toOption with
      | none => rfl
      | some found =>
          simp only [Option.bind_some]
          split
          · rfl
          · split
            · rfl
            · simp only [Option.map_some, List.map_map]
              refine congrArg some (List.map_congr_left fun name _ => ?_)
              exact updateField_bind scope type _ name

theorem collectUpdates_bind (scope : List String) (fields : List Field) :
    (collectUpdates (fields.map (Field.bind scope))).toOption
      = (collectUpdates fields).toOption.map (List.map (Field.bind scope)) := by
  induction fields with
  | nil => rfl
  | cons field rest ih =>
      rw [List.map_cons, toOption_collectUpdates_cons, toOption_collectUpdates_cons,
        Field.updates_bind, ih]
      cases field.updates.toOption with
      | none => rfl
      | some updates =>
          cases (collectUpdates rest).toOption with
          | none => rfl
          | some others => simp only [Option.map_some, Option.bind_some, List.map_append]

/-- Setting marks and making companions can be done in either order. -/
theorem Declaration.companion?_bind (scope : List String) (declaration : Declaration) :
    (declaration.bind scope).companion?.toOption
      = declaration.companion?.toOption.map (Option.map (Declaration.bind scope)) := by
  obtain ⟨name, type, typeParams, isAlias⟩ := declaration
  cases type with
  | struct fields =>
      show (Declaration.companion? ⟨name, TypeExpr.bind scope (.struct fields), typeParams,
        isAlias⟩).toOption = _
      rw [TypeExpr.bind, bindFields_eq_map, toOption_companion?_struct,
        toOption_companion?_struct, collectUpdates_bind]
      cases (collectUpdates fields).toOption with
      | none => rfl
      | some updates =>
          cases updates with
          | nil => rfl
          | cons first rest =>
              show some (some (Declaration.mk _ (.struct _) _ _))
                = some (some (Declaration.mk _ (TypeExpr.bind scope (.struct _)) _ _))
              rw [TypeExpr.bind, bindFields_eq_map]
  | _ =>
      unfold Declaration.bind
      rw [TypeExpr.bind]
      rfl

/-! ## Where marks are set -/

/-- A file that is read is the unit of its items. -/
theorem Go.parse_eq_ok {source path : String} {unit : SourceUnit} :
    parse source path = .ok unit
      ↔ ∃ found, items source = some found ∧ unitOf path found = unit := by
  unfold parse
  cases items source with
  | none =>
      refine iff_of_false (fun h => by cases h) ?_
      rintro ⟨_, ⟨⟩, -⟩
  | some found =>
      constructor
      · intro h
        exact ⟨found, rfl, Except.ok.inj h⟩
      · rintro ⟨_, ⟨⟩, rfl⟩
        rfl

end StructScript
