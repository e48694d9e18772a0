/-
  SchemaRecovery.Proofs.ReorderedModules

  The modules of schemas that are alike. What the messages of a family need
  outside it is recorded in sets, so the family may be gone through in any order
  (`follows_addOutsideNeeds_comm`); the first grouping is the same graph
  (`follows_partition`), and it is compacted in the same way
  (`follows_compact`).
-/
import SchemaRecovery.Proofs.Draft
import SchemaRecovery.Proofs.ReorderedAnalysis

namespace SchemaRecovery

/-! ## Needs outside a family -/

/-- A type that a message depends on. -/
inductive Mention where
  | message (name : Text)
  | enum (name : Text)

/-- The types that a message depends on, messages before enums. -/
def MessageType.mentions (m : MessageType) : List Mention :=
  m.dependsOnMessages.toList.map .message ++ m.dependsOnEnums.toList.map .enum

/-- What a family has to record for a type that is mentioned in it: nothing for a
    type of its own. -/
def Schema.outsideNeed (s : Schema) (root : Label) : Mention → Except Failure (Option RootNeed)
  | .message name => do
    let owner := (← s.message (some name)).root
    return if owner = root then none else some (.message owner)
  | .enum name => do
    let e ← s.enum (some name)
    return if e.rootMessage = root then none else some e.need

namespace SchemaModule

/-- The module may record the need: no module needs its own root messages. -/
def Admits (m : SchemaModule) : Option RootNeed → Prop
  | some (.message root) => root ∉ m.rootMessages
  | _ => True

/-- The module with a need recorded. -/
def withNeed (m : SchemaModule) : Option RootNeed → SchemaModule
  | none => m
  | some (.message root) =>
    { m with dependsOnRootMessages := m.dependsOnRootMessages.insert root }
  | some (.enum name) => { m with dependsOnRootEnums := m.dependsOnRootEnums.insert name }

/-- Records a need. -/
def require (m : SchemaModule) : Option RootNeed → Except Failure SchemaModule
  | none => .ok m
  | some (.message root) => m.addDependsOnMessage root
  | some (.enum name) => .ok { m with dependsOnRootEnums := m.dependsOnRootEnums.insert name }

theorem require_eq_ok_iff {m m' : SchemaModule} {x : Option RootNeed} :
    m.require x = .ok m' ↔ m.Admits x ∧ m' = m.withNeed x := by
  rcases x with - | root | name
  · simp [require, Admits, withNeed, eq_comm]
  · unfold require Admits withNeed addDependsOnMessage
    by_cases hown : root ∈ m.rootMessages
    · simp [hown]
    · simp [hown, eq_comm]
  · simp [require, Admits, withNeed, eq_comm]

/-- Recording needs changes no root message. -/
theorem admits_withNeed (m : SchemaModule) (x y : Option RootNeed) :
    (m.withNeed x).Admits y ↔ m.Admits y := by
  rcases x with - | root | name <;> rcases y with - | root' | name' <;> exact Iff.rfl

theorem withNeed_comm (m : SchemaModule) (x y : Option RootNeed) :
    (m.withNeed x).withNeed y = (m.withNeed y).withNeed x := by
  rcases x with - | root | name <;> rcases y with - | root' | name'
  all_goals simp only [withNeed]
  · rw [OrderedSet.insert_comm]
  · rw [OrderedSet.insert_comm]

/-- Two needs are recorded in either order. -/
theorem follows_require_comm (m : SchemaModule) (x y : Option RootNeed) :
    Follows Eq (m.require x >>= fun m => m.require y) (m.require y >>= fun m => m.require x) := by
  intro r hr
  obtain ⟨m₁, hm₁, hr⟩ := bind_eq_ok.mp hr
  obtain ⟨hx, rfl⟩ := require_eq_ok_iff.mp hm₁
  obtain ⟨hy, rfl⟩ := require_eq_ok_iff.mp hr
  rw [admits_withNeed] at hy
  refine ⟨(m.withNeed y).withNeed x, bind_eq_ok.mpr ⟨m.withNeed y, ?_, ?_⟩, withNeed_comm m x y⟩
  · exact require_eq_ok_iff.mpr ⟨hy, rfl⟩
  · exact require_eq_ok_iff.mpr ⟨(admits_withNeed m y x).mpr hx, rfl⟩

end SchemaModule

namespace ModuleGraph

variable {s s' : Schema}

/-- Records what a mention needs outside the family. -/
def addMention (s : Schema) (root : Label) (m : SchemaModule) (x : Mention) :
    Except Failure SchemaModule := do
  m.require (← s.outsideNeed root x)

theorem addMention_message (s : Schema) (root : Label) (m : SchemaModule) (name : Text) :
    addMention s root m (.message name) = (do
      let owner := (← s.message (some name)).root
      if owner = root then return m else m.addDependsOnMessage owner) := by
  unfold addMention Schema.outsideNeed
  rw [bind_assoc]
  congr 1
  funext y
  by_cases hown : y.root = root
  · rw [if_pos hown, pure_bind, if_pos hown]
    rfl
  · rw [if_neg hown, pure_bind, if_neg hown]
    rfl

theorem addMention_enum (s : Schema) (root : Label) (m : SchemaModule) (name : Text) :
    addMention s root m (.enum name) = (do
      let e ← s.enum (some name)
      if e.rootMessage = root then return m else m.addDependsOnEnum e) := by
  unfold addMention Schema.outsideNeed
  rw [bind_assoc]
  congr 1
  funext e
  by_cases hown : e.rootMessage = root
  · rw [if_pos hown, pure_bind, if_pos hown]
    rfl
  · rw [if_neg hown, pure_bind, if_neg hown]
    unfold EnumType.need SchemaModule.addDependsOnEnum
    cases e.rootMessage with
    | none => rfl
    | some r => rfl

theorem addOutsideNeeds_eq (s : Schema) (root : Label) (m : SchemaModule) (message : MessageType) :
    addOutsideNeeds s root m message = message.mentions.foldlM (addMention s root) m := by
  unfold MessageType.mentions
  rw [List.foldlM_append, List.foldlM_map]
  simp only [List.foldlM_map, addMention_message, addMention_enum]
  rfl

theorem follows_addMention_comm (s : Schema) (root : Label) (m : SchemaModule) (x y : Mention) :
    Follows Eq (addMention s root m x >>= fun m => addMention s root m y)
      (addMention s root m y >>= fun m => addMention s root m x) := by
  intro r hr
  obtain ⟨m₁, hm₁, hr⟩ := bind_eq_ok.mp hr
  obtain ⟨a, ha, hm₁⟩ := bind_eq_ok.mp hm₁
  obtain ⟨b, hb, hr⟩ := bind_eq_ok.mp hr
  obtain ⟨r', hr', heq⟩ := SchemaModule.follows_require_comm m a b r (bind_eq_ok.mpr ⟨m₁, hm₁, hr⟩)
  obtain ⟨m₂, hm₂, hr'⟩ := bind_eq_ok.mp hr'
  refine ⟨r', bind_eq_ok.mpr ⟨m₂, ?_, ?_⟩, heq⟩
  · exact bind_eq_ok.mpr ⟨b, hb, hm₂⟩
  · exact bind_eq_ok.mpr ⟨a, ha, hr'⟩

/-- The messages of a family may be gone through in either order. -/
theorem follows_addOutsideNeeds_comm (s : Schema) (root : Label) (m : SchemaModule)
    (x y : MessageType) :
    Follows Eq (addOutsideNeeds s root m x >>= fun m => addOutsideNeeds s root m y)
      (addOutsideNeeds s root m y >>= fun m => addOutsideNeeds s root m x) := by
  simp only [addOutsideNeeds_eq]
  rw [← List.foldlM_append, ← List.foldlM_append]
  exact .foldlM_perm (follows_addMention_comm s root) List.perm_append_comm m

/-- Messages that are alike need the same outside their families. -/
theorem follows_addOutsideNeeds (h : s.Alike s') (root : Label) (m : SchemaModule)
    {x x' : MessageType} (hx : x.Alike x') :
    Follows Eq (addOutsideNeeds s root m x) (addOutsideNeeds s' root m x') := by
  have hmentions : x.mentions = x'.mentions := by
    unfold MessageType.mentions
    rw [hx.dependsOnMessages, hx.dependsOnEnums]
  rw [addOutsideNeeds_eq, addOutsideNeeds_eq, hmentions]
  refine .foldlM_same _ ?_ rfl
  rintro m _ mention rfl
  refine Follows.bind (R := Eq) ?_ fun need need' hneed => .of_eq (congrArg _ hneed)
  cases mention with
  | message name =>
      refine (h.message (some name)).bind fun y y' hy => .ok ?_
      rw [hy.root]
  | enum name =>
      refine (h.enum (some name)).bind fun e e' he => .ok ?_
      unfold EnumType.need
      rw [he.rootMessage, he.fullName]

/-! ## The first grouping -/

theorem addEnumModule_of_alike (g : ModuleGraph) {e e' : EnumType} (h : e.Alike e') :
    g.addEnumModule e = g.addEnumModule e' := by
  unfold addEnumModule
  rw [h.ns, h.fullName]

theorem follows_addEnumModules (h : s.Alike s') (g : ModuleGraph) :
    Follows Eq (g.addEnumModules s) (g.addEnumModules s') := by
  unfold addEnumModules
  refine (Label.follows_sortOnPair h.rootEnums fun e e' he => ?_).bind fun es es' hes => .ok ?_
  · rw [he.ns, he.fullName]
  · induction hes generalizing g with
    | nil => rfl
    | cons he _ ih =>
        rw [List.foldl_cons, List.foldl_cons, addEnumModule_of_alike g he]
        exact ih _

theorem follows_addMessageModule (h : s.Alike s') (g : ModuleGraph) {root root' : MessageType}
    (hroot : root.Alike root') :
    Follows Eq (g.addMessageModule s root) (g.addMessageModule s' root') := by
  unfold addMessageModule
  rw [hroot.ns, hroot.fullName]
  dsimp only
  refine (Schema.follows_family h hroot).bind fun family family' hfamily => ?_
  have hneeds : Follows Eq
      (family.foldlM (addOutsideNeeds s root'.fullName)
        { (g.create root'.ns).1 with rootMessages := OrderedSet.singleton root'.fullName })
      (family'.foldlM (addOutsideNeeds s' root'.fullName)
        { (g.create root'.ns).1 with rootMessages := OrderedSet.singleton root'.fullName }) := by
    refine hfamily.foldlM ?_ (follows_addOutsideNeeds_comm s' root'.fullName) rfl
    rintro m _ x x' rfl hx
    exact follows_addOutsideNeeds h root'.fullName m hx
  refine hneeds.bind fun m m' hm => ?_
  rw [hm]
  exact .of_eq rfl

theorem follows_addMessageModules (h : s.Alike s') (g : ModuleGraph) :
    Follows Eq (g.addMessageModules s) (g.addMessageModules s') := by
  unfold addMessageModules
  refine Follows.bind (R := Eq) (.foldlM h.rootMessages ?_ rfl) fun r r' hr => ?_
  · rintro ⟨g, held⟩ _ root root' rfl hroot
    dsimp only
    rw [hroot.fullName]
    split
    · exact .of_eq rfl
    · refine (follows_addMessageModule h g hroot).bind fun r r' hr => ?_
      rw [hr]
      exact .of_eq rfl
  · rw [hr]
    exact .of_eq rfl

/-- Schemas that are alike are grouped into the same modules. -/
theorem follows_partition (h : s.Alike s') (g : ModuleGraph) :
    Follows Eq (g.partition s).outcome (g.partition s').outcome := by
  unfold partition
  simp only [Logged.outcome_bind]
  refine (follows_addEnumModules h g).bind fun g₁ g₁' h₁ => ?_
  rw [h₁]
  refine (follows_addMessageModules h g₁').bind fun g₂ g₂' h₂ => ?_
  rw [h₂]
  exact .of_eq rfl

/-! ## Compaction -/

theorem follows_checkModule (h : s.Alike s') (g : ModuleGraph) (m : SchemaModule) :
    Follows Eq (checkModule s g m) (checkModule s' g m) := by
  unfold checkModule
  have hmessages : Follows Eq
      (m.rootMessages.toList.forM fun name => do
        if (← s.message name).ns ≠ m.ns then .error (.foreignMessage name m.ns m.id))
      (m.rootMessages.toList.forM fun name => do
        if (← s'.message name).ns ≠ m.ns then .error (.foreignMessage name m.ns m.id)) := by
    refine .forM _ fun name => (h.message name).bind fun x x' hx => ?_
    rw [hx.ns]
    exact .of_eq rfl
  have henums : Follows Eq
      (m.rootEnums.toList.forM fun name => do
        if (← s.enum name).ns ≠ m.ns then .error (.foreignEnum name m.ns m.id))
      (m.rootEnums.toList.forM fun name => do
        if (← s'.enum name).ns ≠ m.ns then .error (.foreignEnum name m.ns m.id)) := by
    refine .forM _ fun name => (h.enum name).bind fun e e' he => ?_
    rw [he.ns]
    exact .of_eq rfl
  dsimp only
  split
  · exact .error _
  · split
    · exact .error _
    · exact hmessages.bind fun _ _ _ => henums

theorem follows_validate (h : s.Alike s') (g : ModuleGraph) :
    Follows Eq (validate s g) (validate s' g) := by
  unfold validate
  refine .bind_same fun _ => .bind_same fun _ => ?_
  refine (Follows.forM _ (follows_checkModule h g)).bind fun _ _ _ => ?_
  exact .of_eq rfl

/-- The schema only tells whether the final modules are in order. -/
theorem follows_compact (h : s.Alike s') (g : ModuleGraph) :
    Follows Eq (g.compact s).outcome (g.compact s').outcome := by
  unfold compact compactBy
  simp only [Logged.outcome_bind]
  refine .bind_same fun g₁ => .bind_same fun g₂ => .bind_same fun g₃ => .bind_same fun g₄ =>
    .bind_same fun g₅ => .bind_same fun _ => ?_
  refine (follows_validate h g₅).bind fun _ _ _ => ?_
  exact .of_eq rfl

end ModuleGraph

end SchemaRecovery
