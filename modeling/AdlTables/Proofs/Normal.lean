import AdlTables.Proofs.Entries
import AdlTables.Proofs.Expansion
import AdlTables.Proofs.Kind

/-! # One spelling of optional types

An optional type may be spelled as a primitive or as a reference to the standard type. Types and
graphs are put into a normal form in which the primitive is the only spelling. A type and its normal
form have the same shape and show alike, a graph and its normal form find the same declarations up
to normal form, and expansion takes normal forms to normal forms.
-/

namespace AdlTables

/-- A head under the primitive spelling where it makes a type optional. -/
def TypeRef.normal (head : TypeRef) : TypeRef :=
  if head.isOptional then .primitive (.text "Nullable") else head

namespace TypeExpr

mutual

/-- A type with every optional in it under the primitive spelling. -/
def normal : TypeExpr → TypeExpr
  | node head args => node head.normal (normalAll args)

/-- Types with every optional in them under the primitive spelling. -/
def normalAll : List TypeExpr → List TypeExpr
  | [] => []
  | t :: rest => t.normal :: normalAll rest

end

@[simp] theorem normalAll_eq_map (ts : List TypeExpr) : normalAll ts = ts.map normal := by
  induction ts with
  | nil => rfl
  | cons t rest ih => rw [normalAll, ih, List.map_cons]

@[simp] theorem normal_node (head : TypeRef) (args : List TypeExpr) :
    (node head args).normal = node head.normal (args.map normal) := by
  rw [normal, normalAll_eq_map]

end TypeExpr

def Field.normal (f : Field) : Field :=
  { f with type := f.type.normal }

def Body.normal : Body → Body
  | struct params fields => struct params (fields.map Field.normal)
  | union params fields => union params (fields.map Field.normal)
  | newtype params type => newtype params type.normal
  | typeAlias params type => typeAlias params type.normal

def Declaration.normal (d : Declaration) : Declaration :=
  { d with body := d.body.normal }

/-- A declaration of a module with its types in normal form. -/
def ScopedDecl.normal (d : ScopedDecl) : ScopedDecl :=
  { d with decl := d.decl.normal }

def Module.normal (m : Module) : Module :=
  { m with decls := m.decls.map fun e => (e.1, e.2.normal) }

def Graph.normal (g : Graph) : Graph :=
  ⟨g.modules.map fun entry => (entry.1, entry.2.normal)⟩

def Bindings.normal (b : Bindings) : Bindings :=
  b.map fun x => (x.1, x.2.normal)

theorem Value.isText_iff {v : Value} {s : String} : v.isText s ↔ v = .text s := by
  cases v <;> simp [Value.isText]

namespace TypeRef

variable {head head' : TypeRef}

private theorem normal_of_optional (optional : head.isOptional) :
    head.normal = .primitive (.text "Nullable") :=
  if_pos optional

private theorem normal_of_plain (plain : head.isOptional = false) : head.normal = head :=
  if_neg (Bool.eq_false_iff.1 plain)

private theorem isOptional_iff : head.isOptional ↔
    head = .primitive (.text "Nullable") ∨ head = .reference .maybe := by
  constructor
  · intro optional
    cases head with
    | primitive kind => exact .inl (congrArg primitive (Value.isText_iff.1 optional))
    | parameter name => cases optional
    | reference name => exact .inr (congrArg reference (ScopedName.eq_of_same optional))
  · rintro (rfl | rfl) <;> rfl

private theorem Alike.isOptional_eq (alike : head.Alike head') :
    head.isOptional = head'.isOptional := by
  cases head <;> cases head' <;> try exact alike.elim
  case primitive kind kind' =>
    obtain rfl | same := alike
    · rfl
    · rw [Bool.eq_iff_iff, isOptional, isOptional, Value.isText_iff, Value.isText_iff]
      constructor <;> rintro rfl
      · exact Value.eq_text_of_same (Value.same_symm same)
      · exact Value.eq_text_of_same same
  case parameter => rfl
  case reference name name' => exact ScopedName.Alike.same_left alike

@[simp] theorem isOptional_normal (head : TypeRef) : head.normal.isOptional = head.isOptional := by
  cases optional : head.isOptional with
  | true => rw [normal_of_optional optional, isOptional, Value.isText, beq_self_eq_true]
  | false => rw [normal_of_plain optional, optional]

/-- Heads have one normal form if they are equal or both make a type optional. -/
theorem normal_eq_iff :
    head.normal = head'.normal ↔ head = head' ∨ head.isOptional ∧ head'.isOptional := by
  constructor
  · intro normal
    have agree : head.isOptional = head'.isOptional := by
      rw [← isOptional_normal, normal, isOptional_normal]
    cases optional : head.isOptional with
    | true => exact .inr ⟨rfl, agree ▸ optional⟩
    | false =>
      rw [normal_of_plain optional, normal_of_plain (agree ▸ optional)] at normal
      exact .inl normal
  · rintro (rfl | ⟨optional, optional'⟩)
    · rfl
    · rw [normal_of_optional optional, normal_of_optional optional']

theorem isKey_normal (head : TypeRef) : head.normal.isKey = head.isKey := by
  cases optional : head.isOptional with
  | true =>
    rw [normal_of_optional optional]
    obtain rfl | rfl := isOptional_iff.1 optional <;> rfl
  | false => rw [normal_of_plain optional]

private theorem shortName_normal (head : TypeRef) : head.shortName.Like head.normal.shortName := by
  cases optional : head.isOptional with
  | true =>
    rw [normal_of_optional optional]
    obtain rfl | rfl := isOptional_iff.1 optional
    · exact .refl _
    · exact .texts _ _
  | false =>
    rw [normal_of_plain optional]
    exact .refl _

theorem same_normal (same : head.same head') : head.normal.same head'.normal := by
  have agree := (Alike.of_same same).isOptional_eq
  cases optional : head.isOptional with
  | true =>
    rw [normal_of_optional optional, normal_of_optional (agree.trans optional)]
    rfl
  | false => rwa [normal_of_plain optional, normal_of_plain (agree.trans optional)]

end TypeRef

namespace TypeExpr

variable {t u : TypeExpr}

/-- Types have one normal form if they are equal up to the spelling of the optionals in them. -/
theorem normal_eq_iff {head head' : TypeRef} {args args' : List TypeExpr} :
    (node head args).normal = (node head' args').normal ↔
      (head = head' ∨ head.isOptional ∧ head'.isOptional) ∧
        List.Forall₂ (fun t t' => t.normal = t'.normal) args args' := by
  rw [normal_node, normal_node, node.injEq, TypeRef.normal_eq_iff, ← List.forall₂_eq_eq_eq,
    List.forall₂_map_left_iff, List.forall₂_map_right_iff]

private theorem sizeAll_map_normal {ts : List TypeExpr} (each : ∀ t ∈ ts, t.normal.size = t.size) :
    sizeAll (ts.map normal) = sizeAll ts := by
  induction ts with
  | nil => rfl
  | cons t rest ih =>
    rw [List.map_cons, sizeAll, sizeAll, each t List.mem_cons_self,
      ih fun u member => each u (List.mem_cons_of_mem _ member)]

theorem size_normal (t : TypeExpr) : t.normal.size = t.size := by
  induction t with
  | node head args ih => rw [normal_node, size, size, sizeAll_map_normal ih]

theorem isKey_normal (t : TypeExpr) : t.normal.isKey = t.isKey := by
  induction t with
  | node head args ih =>
    rw [normal_node, isKey, isKey, TypeRef.isKey_normal, Bool.eq_iff_iff, Bool.and_eq_true,
      Bool.and_eq_true, isKeyAll_iff, isKeyAll_iff, List.forall_mem_map]
    simp +contextual only [ih]

theorem same_normal (same : t.same u) : t.normal.same u.normal := by
  induction t generalizing u with
  | node head args ih =>
    obtain ⟨head', args'⟩ := u
    rw [TypeExpr.same, Bool.and_eq_true, sameAll_iff] at same
    rw [normal_node, normal_node, TypeExpr.same, Bool.and_eq_true, sameAll_iff,
      List.forall₂_map_left_iff, List.forall₂_map_right_iff]
    exact ⟨TypeRef.same_normal same.1, forall₂_imp_of_mem same.2 fun t member _ => ih t member⟩

/-- A type shows like its normal form: an optional has a text under either spelling. -/
theorem showsLike_normal (t : TypeExpr) : t.ShowsLike t.normal := by
  induction t with
  | node head args ih =>
    rw [normal_node]
    refine .node head.shortName_normal ?_
    rw [List.forall₂_map_right_iff, List.forall₂_same]
    exact ih

end TypeExpr

namespace Bindings

variable {b : Bindings}

private theorem bound?_normal (b : Bindings) (head : TypeRef) :
    TypeExpr.bound? b.normal head.normal = (TypeExpr.bound? b head).map TypeExpr.normal := by
  cases optional : head.isOptional with
  | true =>
    rw [TypeRef.normal_of_optional optional]
    obtain rfl | rfl := TypeRef.isOptional_iff.1 optional <;> rfl
  | false =>
    rw [TypeRef.normal_of_plain optional]
    cases head with
    | primitive _ | reference _ => rfl
    | parameter name => exact Entries.find?_map TypeExpr.normal b name

private theorem normal_ofList (params : List Value) (args : List TypeExpr) :
    Bindings.normal (Entries.ofList (params.zip args)) =
      Entries.ofList (params.zip (args.map TypeExpr.normal)) := by
  rw [Bindings.normal, ← Entries.ofList_map, List.zip_map_right]
  rfl

end Bindings

namespace TypeExpr

private theorem normal_substitute (b : Bindings) (t : TypeExpr) :
    (t.substitute b).normal = t.normal.substitute b.normal := by
  induction t with
  | node head args ih =>
    rw [normal_node, substitute, substitute, Bindings.bound?_normal]
    cases bound? b head with
    | some t => rfl
    | none =>
      simp only [Option.map_none, substituteAll_eq_map, normal_node, List.map_map]
      exact congrArg (node head.normal) (List.map_congr_left ih)

private theorem isOpen_normal (b : Bindings) (t : TypeExpr) :
    t.normal.isOpen b.normal = t.isOpen b := by
  induction t with
  | node head args ih =>
    have inner : isOpenAll b.normal (args.map normal) = isOpenAll b args := by
      rw [Bool.eq_iff_iff, isOpenAll_iff, isOpenAll_iff, List.forall_mem_map]
      simp +contextual only [ih]
    have bound := Bindings.bound?_normal b head
    rw [normal_node]
    cases optional : head.isOptional with
    | true =>
      rw [TypeRef.normal_of_optional optional]
      obtain rfl | rfl := TypeRef.isOptional_iff.1 optional <;> exact inner
    | false =>
      rw [TypeRef.normal_of_plain optional] at bound ⊢
      cases head with
      | primitive _ | reference _ => exact inner
      | parameter name => rw [isOpen, isOpen, inner, bound, Option.isSome_map]

end TypeExpr

def Shape.normal : Shape → Shape
  | primitive kind args => primitive kind (args.map TypeExpr.normal)
  | optional inner => optional inner.normal
  | declared name args => declared name (args.map TypeExpr.normal)

@[simp] theorem Shape.isOptional_normal (s : Shape) : s.normal.isOptional = s.isOptional := by
  cases s <;> rfl

namespace TypeExpr

/-- A type and its normal form are complained of in the same way. -/
theorem complain_normal {α β : Type} {r : α → β → Prop} (t : TypeExpr) (problem : Value → Problem)
    (category : Category) (others : List Value)
    (kinds : ∀ v, (problem v).category = category ∧ (problem v).shown = others ++ [v]) :
    Match r (t.complain problem) (t.normal.complain problem) := by
  refine t.showsLike_normal.complain fun v v' like => ?_
  simp only [Fault.kind, kinds, List.all_append, List.all_cons, like.2]

private theorem optionalArgument_normal (t : TypeExpr) :
    Match (fun inner inner' => inner' = inner.normal) t.optionalArgument
      t.normal.optionalArgument := by
  obtain ⟨head, args⟩ := t
  rw [normal_node, optionalArgument, optionalArgument]
  have arity (ts : List TypeExpr) : Match (fun inner inner' : TypeExpr => inner' = inner.normal)
      ((node head ts).complain (.optionalArity ts.length))
      ((node head.normal (ts.map normal)).complain (.optionalArity (ts.map normal).length)) := by
    rw [List.length_map, ← normal_node]
    exact complain_normal _ _ .shape [] fun _ => ⟨rfl, rfl⟩
  cases args with
  | nil => exact arity []
  | cons inner rest => cases rest with
    | nil => exact .ok rfl
    | cons second rest => exact arity (inner :: second :: rest)

/-- A type and its normal form have one shape. -/
theorem shape_normal (t : TypeExpr) :
    Match (fun s s' => s' = s.normal) t.shape t.normal.shape := by
  obtain ⟨head, args⟩ := t
  cases optional : head.isOptional with
  | true =>
    have optional' : head.normal.isOptional := by rw [TypeRef.isOptional_normal, optional]
    have argument := optionalArgument_normal (node head args)
    rw [normal_node] at argument ⊢
    rw [shape_of_optional optional, shape_of_optional optional', map_eq_pure_bind, map_eq_pure_bind]
    exact argument.bind fun _ _ same => .ok (congrArg Shape.optional same)
  | false =>
    have plain := TypeRef.normal_of_plain optional
    rw [normal_node, plain]
    cases head with
    | primitive kind =>
      rw [shape_of_primitive optional, shape_of_primitive optional]
      exact .ok rfl
    | parameter name =>
      refine .bind_same _ fun _ => ?_
      have complaint := complain_normal (r := fun s s' => s' = Shape.normal s)
        (node (.parameter name) args) (.unboundParameter name) .shape [name]
        fun _ => ⟨rfl, rfl⟩
      rwa [normal_node, plain] at complaint
    | reference name =>
      rw [shape_of_reference optional, shape_of_reference optional]
      exact .ok rfl

end TypeExpr

namespace Graph

variable {g : Graph} {t : TypeExpr}

private theorem renamed?_normal (b : Body) :
    b.normal.renamed? = b.renamed?.map fun x => (x.1, x.2.normal) := by
  cases b <;> rfl

theorem renamingCount_normal (g : Graph) : g.normal.renamingCount = g.renamingCount := by
  simp only [renamingCount, Graph.normal, Module.normal, List.flatMap_map, List.countP_flatMap,
    Function.comp_def, List.countP_map, Declaration.normal, renamed?_normal, Option.isSome_map]

/-- A graph in normal form finds what the graph does, in normal form. -/
theorem resolve_normal (g : Graph) (name : ScopedName) :
    g.normal.resolve name = ScopedDecl.normal <$> g.resolve name := by
  rw [resolve, resolve]
  split
  · rfl
  rw [Graph.normal, Entries.find?_map]
  cases Entries.find? g.modules name.moduleName with
  | none => rfl
  | some m =>
    simp only [Option.map_some, Module.normal]
    split
    · rfl
    rw [Entries.find?_map]
    cases Entries.find? m.decls name.name <;> rfl

private theorem isEnumeration_normal (fields : List Field) :
    isEnumeration (fields.map Field.normal) = isEnumeration fields := by
  have one (f : Field) : isEnumeration [f.normal] = isEnumeration [f] := by
    obtain ⟨_, ⟨head, args⟩, _⟩ := f
    cases optional : head.isOptional with
    | true =>
      obtain rfl | rfl := TypeRef.isOptional_iff.1 optional <;> rfl
    | false => simp only [isEnumeration, Field.normal, TypeExpr.normal_node, TypeExpr.head,
        TypeRef.normal_of_plain optional, List.all_cons, List.all_nil]
  induction fields with
  | nil => rfl
  | cons f rest ih =>
    simp only [isEnumeration, List.map_cons, List.all_cons, List.all_nil, Bool.and_true] at one ih ⊢
    rw [one, ih]

theorem stage_normal (g : Graph) (t : TypeExpr) :
    Match Eq (g.stage t) (g.normal.stage t.normal) := by
  rw [stage, stage]
  refine t.shape_normal.bind ?_
  rintro shape _ rfl
  cases shape with
  | primitive kind _ => exact .refl (fun _ => rfl) _
  | optional _ => exact .ok rfl
  | declared name _ =>
    dsimp only [Shape.normal]
    split
    · exact .ok rfl
    rw [resolve_normal]
    cases g.resolve name with
    | error _ => exact .error rfl
    | ok d =>
      simp only [Functor.map, Except.map, Outcome.ok_bind, ScopedDecl.normal, Declaration.normal]
      cases d.decl.body with
      | union _ fields =>
        simp only [Body.normal, isEnumeration_normal]
        exact .ok rfl
      | struct _ _ | newtype _ _ | typeAlias _ _ => exact .ok rfl

private theorem unfold_normal {name : ScopedName}
    (plain : (TypeRef.reference name).isOptional = false) (args : List TypeExpr)
    (params : List Value) (body : TypeExpr) :
    Match (fun u u' => u' = u.normal) (unfold name args params body)
    (unfold name (args.map TypeExpr.normal) params body.normal) := by
  rw [unfold, unfold, List.length_map]
  split
  · refine .bind_same _ fun _ => ?_
    have complaint := TypeExpr.complain_normal (r := fun u u' : TypeExpr => u' = u.normal)
      (.node (.reference name) args) (.argumentCount name params.length args.length) .shape
      [name.moduleName, name.name] fun _ => ⟨rfl, rfl⟩
    rwa [TypeExpr.normal_node, TypeRef.normal_of_plain plain] at complaint
  · rw [TypeExpr.bind, TypeExpr.bind]
    split
    · simp only [Outcome.ok_bind, TypeExpr.instantiate, ← Bindings.normal_ofList,
        TypeExpr.isOpen_normal, ← TypeExpr.normal_substitute]
      split
      · exact .ok rfl
      · exact .error rfl
    · exact .error rfl

/-- A type that is expanded has a normal form that is expanded to the normal form of the next. -/
theorem expand_normal (staged : g.stage t = .ok .renamed) :
    Match (fun u u' => u' = u.map TypeExpr.normal) (g.expand t) (g.normal.expand t.normal) := by
  obtain ⟨name, args, params, body, rfl, plain, _, d, found, renamed⟩ := stage_eq_renamed.1 staged
  have plain : (TypeRef.reference name).isOptional = false := plain
  have renames : g.normal.Renames name params body.normal := by
    refine ⟨d.normal, by rw [resolve_normal, found]; rfl, ?_⟩
    rw [ScopedDecl.normal, Declaration.normal, renamed?_normal, renamed]
    rfl
  rw [expand_reference ⟨d, found, renamed⟩, TypeExpr.normal_node, TypeRef.normal_of_plain plain,
    expand_reference renames, map_eq_pure_bind, map_eq_pure_bind]
  refine (unfold_normal plain args params body).bind ?_
  rintro u _ rfl
  exact .ok rfl

end Graph

end AdlTables
