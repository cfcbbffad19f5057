import ProcessDiagram.Proofs.Xml.Assembly
import ProcessDiagram.Proofs.Table

set_option autoImplicit false

namespace ProcessDiagram.Xml

def Scope.expanded (scope : Scope) (name : QualifiedName) : ExpandedName :=
  ⟨(Table.get? name.qualifier scope).getD "", name.localName⟩

def plainAttributes (attributes : List (QualifiedName × String)) : List (ExpandedName × String) :=
  (attributes.filter fun pair => (declared? pair.1).isNone).map fun pair =>
    (⟨"", pair.1.localName⟩, pair.2)

mutual
def resolvedNode (scope : Scope) : Node QualifiedName → Content
  | .text value => if value = "" then [] else [.text value]
  | .element name attributes children =>
      [.element (scope.expanded name) (plainAttributes attributes) (resolvedNodes scope children)]
  | .comment value => [.comment value]
  | .instruction target data => [.instruction target data]

def resolvedNodes (scope : Scope) : List (Node QualifiedName) → Content
  | [] => []
  | child :: rest => resolvedNode scope child ++ resolvedNodes scope rest
end

def isUnqualified (name : QualifiedName) : Bool :=
  name.isPlain && decide (name.qualifier = "") && decide (name.localName ≠ "xmlns")

-- A tag that declares nothing, and whose qualifier is declared around it.
structure LegibleTag (scope : Scope) (name : QualifiedName)
    (attributes : List (QualifiedName × String)) : Prop where
  plain : name.isPlain
  qualified : name.qualifier ≠ ""
  known : ∃ space, Table.get? name.qualifier scope = some space ∧ space ≠ ""
  unqualified : ∀ pair ∈ attributes, isUnqualified pair.1
  distinct : (attributes.map Prod.fst).Nodup
  allowed : ∀ pair ∈ attributes, hasForbidden pair.2 = false

-- A node of at most some height that is read back as it is.
inductive Legible (scope : Scope) : Nat → Node QualifiedName → Prop
  | text (height : Nat) (value : String) (allowed : hasForbidden value = false) :
      Legible scope height (.text value)
  | element (height : Nat) (name : QualifiedName) (attributes : List (QualifiedName × String))
      (children : List (Node QualifiedName)) (tag : LegibleTag scope name attributes)
      (inside : ∀ child ∈ children, Legible scope height child) (apart : Apart children) :
      Legible scope (height + 1) (.element name attributes children)

theorem unqualified_name (name : QualifiedName) (unqualified : isUnqualified name) :
    name.isPlain ∧ name.qualifier = "" ∧ name.localName ≠ "xmlns" := by
  simpa [isUnqualified, and_assoc] using unqualified

theorem legible_printable (scope : Scope) (height : Nat) (node : Node QualifiedName)
    (legible : Legible scope height node) : Printable node := by
  induction legible with
  | text height value _ => exact .text value
  | element height name attributes children tag _ apart ih =>
      exact .element name attributes children tag.plain
        (fun pair member => (unqualified_name pair.1 (tag.unqualified pair member)).1) ih apart

namespace Reading

variable {Value Other : Type}

theorem run_bind (first : Reading Value) (next : Value → Reading Other) (found after : Findings)
    (value : Value) (run : first found = some (value, after)) :
    (first >>= next) found = next value after := by
  simp [bind, StateT.bind, run]

theorem report_nothing (wrong : Bool) (right : wrong = false) :
    reportErrorIf wrong = pure () := by
  rw [reportErrorIf, right]
  rfl

theorem read_plain_name (name : QualifiedName) (plain : name.isPlain) :
    readName name.chars = pure name := by
  rw [readName, (plain_name name plain).2.2]
  rfl

theorem read_escaped_value (nesting : Nat) (value : String) :
    readValue nesting .text (value.toList.flatMap escapeAttributeChar) = pure value.toList := by
  have kept := unify_line_ends_free (value.toList.flatMap escapeAttributeChar)
    fun c member => (attribute_free _ c member).2.2
  have lifted : lift (some (value.toList.map attributePiece)) =
      pure (value.toList.map attributePiece) := rfl
  rw [readValue, kept, pieces_attribute, lifted]
  simp only [pure_bind, value_attribute]
  rfl

theorem read_written_one (place : Surroundings) (inner : Scope) (pair : QualifiedName × String)
    (rest : List RawAttribute) (plain : pair.1.isPlain) (other : pair.1 ≠ ⟨"xml", "space"⟩) :
    readWritten place [] inner (rawAttribute pair :: rest) =
      match declared? pair.1 with
      | some qualifier => (do readWritten place [] (← declareSpace inner qualifier pair.2) rest)
      | none => do
          let (inner, others) ← readWritten place [] inner rest
          return (inner, ⟨pair.1, pair.2⟩ :: others) := by
  have kind : AttributeRule.kindIn [] pair.1 = .text := rfl
  have spacing : readSpacing pair.1 pair.2 = pure () := by
    rw [readSpacing]
    simp [other]
  rw [rawAttribute, readWritten, read_plain_name pair.1 plain]
  cases found : declared? pair.1 with
  | none => simp only [pure_bind, kind, read_escaped_value, String.ofList_toList, spacing, found]
  | some qualifier =>
      simp only [pure_bind, kind, read_escaped_value, String.ofList_toList, spacing, found]

theorem undeclared (name : QualifiedName) (unqualified : isUnqualified name) :
    declared? name = none := by
  obtain ⟨_, empty, other⟩ := unqualified_name name unqualified
  obtain ⟨qualifier, localName⟩ := name
  simp only at empty other
  simp [declared?, empty, other]

def tagAttributes (attributes : List (QualifiedName × String)) : List TagAttribute :=
  attributes.map fun pair => ⟨pair.1, pair.2⟩

theorem read_written_plain (place : Surroundings) (inner : Scope)
    (attributes : List (QualifiedName × String))
    (unqualified : ∀ pair ∈ attributes, isUnqualified pair.1) :
    readWritten place [] inner (attributes.map rawAttribute) =
      pure (inner, tagAttributes attributes) := by
  induction attributes with
  | nil => rfl
  | cons pair rest ih =>
      have first := unqualified pair List.mem_cons_self
      obtain ⟨plain, empty, _⟩ := unqualified_name pair.1 first
      have other : pair.1 ≠ ⟨"xml", "space"⟩ := by
        intro same
        rw [same] at empty
        exact absurd empty (by decide)
      rw [List.map_cons, read_written_one place inner pair _ plain other, undeclared pair.1 first,
        ih fun one member => unqualified one (List.mem_cons_of_mem _ member)]
      rfl

def placedAttributes (attributes : List (QualifiedName × String)) : List PlacedAttribute :=
  attributes.map fun pair => { written := pair.1, value := pair.2, space := some "" }

theorem place_plain (scope : Scope) (attributes : List (QualifiedName × String))
    (unqualified : ∀ pair ∈ attributes, isUnqualified pair.1) :
    placeAttributes scope (tagAttributes attributes) = pure (placedAttributes attributes) := by
  induction attributes with
  | nil => rfl
  | cons pair rest ih =>
      obtain ⟨_, empty, _⟩ := unqualified_name pair.1 (unqualified pair List.mem_cons_self)
      have later := ih fun one member => unqualified one (List.mem_cons_of_mem _ member)
      rw [tagAttributes, List.map_cons, placeAttributes]
      rw [tagAttributes] at later
      simp only [placeAttribute, Scope.space?, empty, if_true, Option.isNone_some,
        report_nothing false rfl, pure_bind, later]
      rfl

theorem check_plain (attributes : List (QualifiedName × String))
    (unqualified : ∀ pair ∈ attributes, isUnqualified pair.1)
    (distinct : (attributes.map Prod.fst).Nodup) :
    checkDistinct (placedAttributes attributes) = pure () := by
  have written : (placedAttributes attributes).map (fun one => one.written) =
      attributes.map Prod.fst := by
    simp [placedAttributes]
  have keys : ((placedAttributes attributes).map PlacedAttribute.key).Nodup := by
    have shape : (placedAttributes attributes).map PlacedAttribute.key =
        (attributes.map Prod.fst).map fun name => ⟨"", name.localName⟩ := by
      simp [placedAttributes, PlacedAttribute.key]
    rw [shape]
    apply List.Nodup.map_on _ distinct
    intro first member second other same
    obtain ⟨pair, inside, rfl⟩ := List.mem_map.mp member
    obtain ⟨more, insideToo, rfl⟩ := List.mem_map.mp other
    have one := (unqualified_name pair.1 (unqualified pair inside)).2.1
    have two := (unqualified_name more.1 (unqualified more insideToo)).2.1
    rw [ExpandedName.mk.injEq] at same
    obtain ⟨⟨qualifier, localName⟩, value⟩ := pair
    obtain ⟨⟨qualifier', localName'⟩, value'⟩ := more
    simp_all
  rw [checkDistinct, written, decide_eq_true distinct, decide_eq_true keys]
  rfl

theorem read_ids_plain (inEntity : Bool) (attributes : List (QualifiedName × String))
    (unqualified : ∀ pair ∈ attributes, isUnqualified pair.1) :
    readIds inEntity [] (placedAttributes attributes) = pure () := by
  induction attributes with
  | nil => rfl
  | cons pair rest ih =>
      obtain ⟨_, empty, _⟩ := unqualified_name pair.1 (unqualified pair List.mem_cons_self)
      have later := ih fun one member => unqualified one (List.mem_cons_of_mem _ member)
      have other : pair.1 ≠ ⟨"xml", "id"⟩ := by
        intro same
        rw [same] at empty
        exact absurd empty (by decide)
      rw [placedAttributes, List.map_cons, readIds, readId]
      rw [placedAttributes] at later
      simp [PlacedAttribute.isId, PlacedAttribute.isReservedId, other, later]

theorem expand_known (scope : Scope) (name : QualifiedName) (qualified : name.qualifier ≠ "")
    (space : String) (known : Table.get? name.qualifier scope = some space) (nonempty : space ≠ "") :
    expandName scope name = pure (scope.expanded name) := by
  rw [expandName, if_neg qualified, Scope.expanded, known, Option.filter_some,
    if_pos (by simpa using nonempty)]
  rfl

theorem plain_attributes_undeclared (attributes : List (QualifiedName × String))
    (unqualified : ∀ pair ∈ attributes, isUnqualified pair.1) :
    plainAttributes attributes = attributes.map fun pair => (⟨"", pair.1.localName⟩, pair.2) := by
  rw [plainAttributes, List.filter_eq_self.mpr]
  intro pair member
  rw [undeclared pair.1 (unqualified pair member)]
  rfl

theorem read_tag_with (place : Surroundings) (name : QualifiedName) (raw : List RawAttribute)
    (inner : Scope) (attributes : List (QualifiedName × String)) (found : Findings)
    (noRules : found.doctype.attributes = []) (plain : name.isPlain)
    (read : readWritten place [] [] raw = pure (inner, tagAttributes attributes))
    (tag : LegibleTag (place.scope.extend inner) name attributes) :
    readTag place name.chars raw found =
      some (⟨(place.scope.extend inner).expanded name, plainAttributes attributes,
        place.scope.extend inner⟩, found) := by
  have rules : found.doctype.rules name.chars = [] := by
    rw [Doctype.rules, noRules]
    rfl
  obtain ⟨space, known, nonempty⟩ := tag.known
  have values : addFallbacks [] ((placedAttributes attributes).map fun one => (one.name, one.value)) =
      plainAttributes attributes := by
    rw [plain_attributes_undeclared attributes tag.unqualified]
    simp [addFallbacks, placedAttributes, PlacedAttribute.name]
  rw [readTag, read_plain_name name plain]
  simp only [pure_bind]
  rw [run_bind get _ found found found rfl]
  simp only [rules, ite_self, List.filterMap_nil, read, pure_bind, declarePresets, checkPresets,
    place_plain _ _ tag.unqualified, check_plain _ tag.unqualified tag.distinct,
    expand_known _ _ tag.qualified space known nonempty, read_ids_plain _ _ tag.unqualified, values]
  rfl

theorem read_plain_tag (place : Surroundings) (name : QualifiedName)
    (attributes : List (QualifiedName × String)) (found : Findings)
    (noRules : found.doctype.attributes = []) (tag : LegibleTag place.scope name attributes) :
    readTag place name.chars (attributes.map rawAttribute) found =
      some (⟨place.scope.expanded name, plainAttributes attributes, place.scope⟩, found) :=
  read_tag_with place name _ [] attributes found noRules tag.plain
    (read_written_plain place [] attributes tag.unqualified) tag

theorem join_nothing (content : Content) : joinContent content [] = content := by
  induction content with
  | nil => rfl
  | cons node rest ih =>
      rw [joinContent]
      · rw [ih]
      · rintro first second others none _ _
        exact List.cons_ne_nil _ _ none.symm

theorem join_one (node : Node ExpandedName) (others : Content)
    (apart : node.isText → ∀ next ∈ others.head?, next.isText = false) :
    joinContent [node] others = node :: others := by
  rw [joinContent]
  · rfl
  · rintro first second rest rfl rfl _
    exact absurd (apart rfl (.text second) rfl) (by simp [Node.isText])

-- The node is read back at any place of its scope that is not too deep for it.
def ReadsBack (scope : Scope) (height : Nat) (node : Node QualifiedName) : Prop :=
  ∀ (expand : Expansion) (place : Surroundings) (found : Findings), place.scope = scope →
    place.depth + height ≤ maxDepth → found.doctype.attributes = [] →
    readNodes expand place (Written.ofNode node) found = some (resolvedNode scope node, found)

theorem read_nodes_one (expand : Expansion) (place : Surroundings) (written : Written) :
    readNodes expand place [written] = readNode expand place written := by
  rw [readNodes, readNodes]
  simp [join_nothing]

theorem reads_text (scope : Scope) (height : Nat) (value : String) :
    ReadsBack scope height (.text value) := by
  intro expand place found _ _ _
  by_cases empty : value = ""
  · subst empty
    rfl
  · have some_char : value.toList ≠ [] := by simpa using empty
    have lifted : lift (some (value.toList.map contentPiece)) =
        pure (value.toList.map contentPiece) := rfl
    rw [Written.ofNode, if_neg some_char, resolvedNode, if_neg empty, read_nodes_one, readNode,
      pieces_content, lifted, pure_bind, segments_content, if_neg some_char]
    simp only [readSegments, pure_bind, String.ofList_toList, join_nothing]
    rfl

theorem resolved_head (scope : Scope) (nodes : List (Node QualifiedName))
    (solid : ∀ next ∈ nodes.head?, next.isText = false) (printable : ∀ node ∈ nodes, Printable node) :
    ∀ next ∈ (resolvedNodes scope nodes).head?, next.isText = false := by
  cases nodes with
  | nil => simp [resolvedNodes]
  | cons first rest =>
      have kind := solid first rfl
      cases printable first List.mem_cons_self with
      | text value => simp [Node.isText] at kind
      | element name attributes children =>
          simp [resolvedNodes, resolvedNode, Node.isText]

theorem reads_children (scope : Scope) (height : Nat) (nodes : List (Node QualifiedName))
    (printable : ∀ node ∈ nodes, Printable node)
    (back : ∀ node ∈ nodes, ReadsBack scope height node) (apart : Apart nodes)
    (expand : Expansion) (place : Surroundings) (found : Findings) (same : place.scope = scope)
    (shallow : place.depth + height ≤ maxDepth) (noRules : found.doctype.attributes = []) :
    readNodes expand place (Written.ofNodes nodes) found =
      some (resolvedNodes scope nodes, found) := by
  induction nodes with
  | nil => rfl
  | cons first rest ih =>
      have printableRest := fun node member => printable node (List.mem_cons_of_mem _ member)
      have one := back first List.mem_cons_self expand place found same shallow noRules
      have later := ih printableRest (fun node member => back node (List.mem_cons_of_mem _ member))
        apart.2
      have joined : ∀ node, (node.isText → first.isText) →
          joinContent [node] (resolvedNodes scope rest) = node :: resolvedNodes scope rest :=
        fun node kept => join_one node _ fun text =>
          resolved_head scope rest (apart.1 (kept text)) printableRest
      rw [Written.ofNodes, resolvedNodes]
      cases printable first List.mem_cons_self with
      | text value =>
          by_cases empty : value.toList = []
          · have blank : value = "" := by simpa using empty
            rw [Written.ofNode, if_pos empty, resolvedNode, if_pos blank]
            exact later
          · have solid : value ≠ "" := by simpa using empty
            rw [Written.ofNode, if_neg empty, read_nodes_one, resolvedNode, if_neg solid] at one
            rw [Written.ofNode, if_neg empty, resolvedNode, if_neg solid, List.singleton_append,
              readNodes, run_bind _ _ found found _ one, run_bind _ _ found found _ later,
              joined _ fun _ => rfl]
            rfl
      | element name attributes children =>
          rw [Written.ofNode, read_nodes_one, resolvedNode] at one
          rw [Written.ofNode, resolvedNode, List.singleton_append, readNodes,
            run_bind _ _ found found _ one, run_bind _ _ found found _ later,
            joined _ fun text => by simp [Node.isText] at text]
          rfl

theorem reads_element (scope : Scope) (height : Nat) (name : QualifiedName)
    (attributes : List (QualifiedName × String)) (children : List (Node QualifiedName))
    (tag : LegibleTag scope name attributes) (printable : ∀ child ∈ children, Printable child)
    (back : ∀ child ∈ children, ReadsBack scope height child) (apart : Apart children) :
    ReadsBack scope (height + 1) (.element name attributes children) := by
  intro expand place found same shallow noRules
  subst same
  have content := reads_children place.scope height children printable back apart expand
    (enter place ⟨place.scope.expanded name, plainAttributes attributes, place.scope⟩) found rfl
    (by simp only [enter]; omega) noRules
  rw [Written.ofNode, read_nodes_one, readNode, if_neg (by omega),
    run_bind _ _ found found _ (read_plain_tag place name attributes found noRules tag),
    run_bind _ _ found found _ content]
  rfl

theorem reads_legible (scope : Scope) (height : Nat) (node : Node QualifiedName)
    (legible : Legible scope height node) : ReadsBack scope height node := by
  induction legible with
  | text height value _ => exact reads_text scope height value
  | element height name attributes children tag inside apart ih =>
      exact reads_element scope height name attributes children tag
        (fun child member => legible_printable scope height child (inside child member)) ih apart

end Reading

end ProcessDiagram.Xml
