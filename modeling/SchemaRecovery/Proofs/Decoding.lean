/-
  SchemaRecovery.Proofs.Decoding

  How the types of a document are read: the members of a descriptor one after
  another, and the types nested in it as a list of the same kind (`type_obj`).
-/
import SchemaRecovery.Assembly.Decode
import SchemaRecovery.Proofs.Outcome

namespace SchemaRecovery.Decode

/-- The types of a list are read one by one. -/
theorem types_eq_mapM (vs : List Json) : types vs = vs.mapM type := by
  induction vs with
  | nil => rw [types, List.mapM_nil]; rfl
  | cons v rest ih => rw [types, ih, List.mapM_cons]

/-- The types under the key of nested types. What is no list has to be empty. -/
def nestedIn : Json → Except Failure (Option (List TypeDeclaration))
  | .arr vs => some <$> vs.mapM type
  | v => do
    match ← items v with
    | none => .ok none
    | some [] => .ok (some [])
    | some _ => .error .notADescriptor

/-- The types nested in a type; if there is no such key there are none. -/
def nestedOf (ms : Members) : Except Failure (Option (List TypeDeclaration)) :=
  match lookup ms "nested_types" with
  | none => .ok (some [])
  | some v => nestedIn v

theorem nestedOf_arr {ms : Members} {vs : List Json} {ds : List TypeDeclaration}
    (hlookup : lookup ms "nested_types" = some (.arr vs)) (hds : vs.mapM type = .ok ds) :
    nestedOf ms = .ok (some ds) := by
  unfold nestedOf
  rw [hlookup]
  show some <$> vs.mapM type = _
  rw [hds]
  rfl

/-- A type is read from its members in a row. -/
theorem type_obj (ms : Members) :
    type (.obj ms) = (do
      let name ← requiredLabel ms "name"
      let ns := label ((lookup ms "namespace").getD (.str ""))
      let kind ← kind ((lookup ms "kind").getD (.str "class"))
      let interfaces ← listOf (fun v => .ok v.text) ms "interfaces"
      let fields ← listOf field ms "fields"
      let properties ← listOf property ms "properties"
      let nested ← nestedOf ms
      return { name, ns, kind, interfaces, fields, properties, nested }) := by
  rw [type]
  refine bind_congr fun name => bind_congr fun kind => bind_congr fun interfaces =>
    bind_congr fun fields => bind_congr fun properties => ?_
  dsimp only
  unfold nestedOf
  -- No such key, a list, or a value that is no list.
  split
  · rename_i hnone
    rw [hnone]
  · rename_i vs hsome
    rw [hsome, types_eq_mapM]
    rfl
  · rename_i v hne hsome
    rw [hsome]
    show _ = nestedIn v >>= _
    rw [nestedIn, bind_assoc]
    · refine bind_congr fun found => ?_
      rcases found with _ | _ | ⟨_, _⟩
      · rfl
      · rfl
      · rfl
    · exact hne

/-- A document with the types of a list. -/
theorem assembly_of_types {ms : Members} {name : Json} {items : List Json}
    {types : List TypeDeclaration} (hname : lookup ms "name" = some name)
    (hitems : lookup ms "types" = some (.arr items))
    (htypes : items.mapM type = .ok types) :
    assembly (.obj ms) = (do
      let references ← listOf reference ms "references"
      return { name := label name, references, types := some types }) := by
  have hlist : listOf type ms "types" = .ok (some types) := by
    unfold listOf
    rw [hitems]
    show (items.mapM type >>= fun x => Except.ok (some x)) = _
    rw [htypes]
    rfl
  unfold assembly
  dsimp only
  rw [hname, hlist]
  rfl

end SchemaRecovery.Decode
