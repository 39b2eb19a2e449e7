import DocFilter.Document.Encode
import DocFilter.Proofs.Walk.Counting

/-!
# Walks and encodings

A node is written as an object whose tag is the name of its kind, and no other object
in the encoding of a document has such a tag: neither choices and widths, nor metadata
values, nor maps, whatever their keys are. The objects with such a tag, in the order in
which they begin, are therefore the nodes in reading order, and these are what a walk
offers.
-/

namespace DocFilter

def BlockKind.isTag (tag : String) : Bool := all.any fun kind => kind.tag == tag

def InlineKind.isTag (tag : String) : Bool := all.any fun kind => kind.tag == tag

namespace Json

mutual

/-- The objects in a value, in the order in which they begin. -/
def objects : Json → List Json
  | .object members => .object members :: objectsOfMembers members
  | .list items => objectsOf items
  | .null => []
  | .bool _ => []
  | .number _ => []
  | .string _ => []

def objectsOf : List Json → List Json
  | [] => []
  | item :: items => item.objects ++ objectsOf items

def objectsOfMembers : List (String × Json) → List Json
  | [] => []
  | (_, value) :: members => value.objects ++ objectsOfMembers members

end

/-- The text that an object has under `t`. -/
def tag? : Json → Option String
  | .object members =>
      match members.lookup "t" with
      | some (.string tag) => some tag
      | _ => none
  | _ => none

/-- An object with the tag of a kind of blocks. -/
def isBlock (value : Json) : Bool := value.tag?.any BlockKind.isTag

def isInline (value : Json) : Bool := value.tag?.any InlineKind.isTag

def isNode (value : Json) : Bool := value.isBlock || value.isInline

theorem objectsOfMembers_eq (members : List (String × Json)) :
    objectsOfMembers members = objectsOf (members.map Prod.snd) := by
  induction members with
  | nil => rfl
  | cons member rest ih => rw [objectsOfMembers, ih, List.map_cons, objectsOf]

end Json

def Node.toJson : Node → Json
  | .inline value => value.toJson
  | .block value => value.toJson

/-! ## Tags of nodes -/

theorem Inline.isInline_toJson (inline : Inline) : inline.toJson.isInline = true := by
  have tagged : inline.toJson.tag? = some inline.kind.tag := by cases inline <;> rfl
  rw [Json.isInline, tagged, Option.any_some]
  cases inline.kind <;> decide

theorem Inline.isBlock_toJson (inline : Inline) : inline.toJson.isBlock = false := by
  have tagged : inline.toJson.tag? = some inline.kind.tag := by cases inline <;> rfl
  rw [Json.isBlock, tagged, Option.any_some]
  cases inline.kind <;> decide

theorem Block.isBlock_toJson (block : Block) : block.toJson.isBlock = true := by
  have tagged : block.toJson.tag? = some block.kind.tag := by cases block <;> rfl
  rw [Json.isBlock, tagged, Option.any_some]
  cases block.kind <;> decide

theorem Block.isInline_toJson (block : Block) : block.toJson.isInline = false := by
  have tagged : block.toJson.tag? = some block.kind.tag := by cases block <;> rfl
  rw [Json.isInline, tagged, Option.any_some]
  cases block.kind <;> decide

theorem Node.isBlock_toJson (node : Node) : node.toJson.isBlock = node.isBlock := by
  cases node with
  | inline value => exact value.isBlock_toJson
  | block value => exact value.isBlock_toJson

theorem Node.isInline_toJson (node : Node) : node.toJson.isInline = node.isInline := by
  cases node with
  | inline value => exact value.isInline_toJson
  | block value => exact value.isInline_toJson

/-! ## Values and the nodes in them -/

namespace Json

/-- The objects in values that have the tags of nodes are these nodes, in this order. -/
def ShowAll (items : List Json) (nodes : List Node) : Prop :=
  (objectsOf items).filter isNode = nodes.map Node.toJson

/-- The objects in a value that have the tags of nodes are these nodes, in this order. -/
def Shows (value : Json) (nodes : List Node) : Prop :=
  value.objects.filter isNode = nodes.map Node.toJson

namespace ShowAll

variable {first : Json} {rest : List Json} {nodes others : List Node}

theorem nil : ShowAll [] [] := rfl

theorem cons (head : Shows first nodes) (tail : ShowAll rest others) :
    ShowAll (first :: rest) (nodes ++ others) := by
  rw [ShowAll, objectsOf, List.filter_append, List.map_append, head, tail]

/-- A value without nodes may stand in front. -/
theorem skip (head : Shows first []) (tail : ShowAll rest nodes) : ShowAll (first :: rest) nodes :=
  cons head tail

/-- Values without nodes may follow. -/
theorem front (head : Shows first nodes) (tail : ShowAll rest []) :
    ShowAll (first :: rest) nodes := by
  have all := cons head tail
  rwa [List.append_nil] at all

/-- There are no nodes in values none of which has any. -/
theorem none {items : List Json} (each : ∀ item ∈ items, Shows item []) : ShowAll items [] := by
  induction items with
  | nil => exact .nil
  | cons item rest ih =>
      obtain ⟨head, tail⟩ := List.forall_mem_cons.mp each
      exact .skip head (ih tail)

end ShowAll

namespace Shows

variable {nodes : List Node}

theorem string (text : String) : Shows (.string text) [] := rfl

theorem int (value : Int) : Shows (.int value) [] := rfl

theorem real (value : Float) : Shows (.real value) [] := rfl

theorem list {items : List Json} (each : ShowAll items nodes) : Shows (.list items) nodes := each

/-- An object without such a tag shows what its members do. -/
theorem object {members : List (String × Json)} (other : isNode (.object members) = false)
    (each : ShowAll (members.map Prod.snd) nodes) : Shows (.object members) nodes := by
  have passed : ¬ isNode (.object members) = true := by
    rw [other]
    exact Bool.false_ne_true
  rw [Shows, objects, List.filter_cons_of_neg passed, objectsOfMembers_eq]
  exact each

/-- An object with such a tag comes before what its members show. -/
theorem root {node : Node} {members : List (String × Json)} (form : node.toJson = .object members)
    (each : ShowAll (members.map Prod.snd) nodes) : Shows node.toJson (node :: nodes) := by
  have known : isNode node.toJson = true := by
    rw [isNode, node.isBlock_toJson, node.isInline_toJson]
    cases node <;> rfl
  rw [form] at known
  rw [Shows, form, objects, List.filter_cons_of_pos known, objectsOfMembers_eq, each,
    List.map_cons, form]

theorem node {node : Node} {tag : String} {content : Json} (form : node.toJson = .node tag content)
    (inside : Shows content nodes) : Shows node.toJson (node :: nodes) :=
  .root form (.skip (.string tag) (.front inside .nil))

theorem bare {node : Node} {tag : String} (form : node.toJson = .tagged tag) :
    Shows node.toJson [node] :=
  .root form (.skip (.string tag) .nil)

theorem tagged {tag : String} (other : isNode (.tagged tag) = false) : Shows (.tagged tag) [] :=
  .object other (.skip (.string tag) .nil)

/-- A content under the tag of something else shows what it shows without it. -/
theorem under {tag : String} {content : Json} (other : isNode (.tagged tag) = false)
    (inside : Shows content nodes) : Shows (.node tag content) nodes :=
  .object other (.skip (.string tag) (.front inside .nil))

variable {value : Json}

/-- Objects with tags of one sort are counted like the nodes with these tags. -/
theorem countP {chosen : Json → Bool} {isChosen : Node → Bool}
    (known : ∀ object : Json, chosen object = true → object.isNode = true)
    (same : ∀ node : Node, chosen node.toJson = isChosen node) (shows : Shows value nodes) :
    value.objects.countP chosen = nodes.countP isChosen := by
  have among : (value.objects.filter isNode).countP chosen = value.objects.countP chosen := by
    rw [List.countP_filter]
    apply List.countP_congr
    intro object _
    rw [Bool.and_eq_true, and_iff_left_of_imp (known object)]
  rw [← among, shows, List.countP_map]
  exact congrArg (List.countP · nodes) (funext same)

theorem countP_isBlock (shows : Shows value nodes) :
    value.objects.countP isBlock = nodes.countP Node.isBlock :=
  shows.countP (fun _ chosen => Bool.or_eq_true_iff.mpr (.inl chosen)) Node.isBlock_toJson

theorem countP_isInline (shows : Shows value nodes) :
    value.objects.countP isInline = nodes.countP Node.isInline :=
  shows.countP (fun _ chosen => Bool.or_eq_true_iff.mpr (.inr chosen)) Node.isInline_toJson

end Shows

end Json

open Json (Shows ShowAll)

/-! ## Records without nodes -/

theorem QuoteType.shows (type : QuoteType) : Shows (.tagged type.tag) [] := by
  cases type <;> exact .tagged (by decide)

theorem MathType.shows (type : MathType) : Shows (.tagged type.tag) [] := by
  cases type <;> exact .tagged (by decide)

theorem CitationMode.shows (mode : CitationMode) : Shows (.tagged mode.tag) [] := by
  cases mode <;> exact .tagged (by decide)

theorem ListStyle.shows (style : ListStyle) : Shows (.tagged style.tag) [] := by
  cases style <;> exact .tagged (by decide)

theorem ListDelimiter.shows (delimiter : ListDelimiter) : Shows (.tagged delimiter.tag) [] := by
  cases delimiter <;> exact .tagged (by decide)

theorem Alignment.shows (alignment : Alignment) : Shows (.tagged alignment.tag) [] := by
  cases alignment <;> exact .tagged (by decide)

theorem Attr.shows (attr : Attr) : attr.toJson.Shows [] := by
  refine .list (.skip (.string _) (.skip (.list (.none ?_)) (.skip (.list (.none ?_)) .nil)))
  · intro item member
    obtain ⟨name, -, rfl⟩ := List.mem_map.mp member
    exact .string name
  · intro item member
    obtain ⟨⟨key, value⟩, -, rfl⟩ := List.mem_map.mp member
    exact .list (.skip (.string key) (.skip (.string value) .nil))

theorem Target.shows (target : Target) : target.toJson.Shows [] :=
  .list (.skip (.string _) (.skip (.string _) .nil))

theorem ListAttributes.shows (attributes : ListAttributes) : attributes.toJson.Shows [] :=
  .list (.skip (.int _) (.skip attributes.style.shows (.skip attributes.delimiter.shows .nil)))

theorem ColSpec.shows (spec : ColSpec) : spec.toJson.Shows [] := by
  obtain ⟨alignment, width⟩ := spec
  refine .list (.skip alignment.shows (.skip ?_ .nil))
  cases width with
  | fixed fraction => exact .under (by decide) (.real fraction)
  | default => exact .tagged (by decide)

theorem ColSpec.shows_all (specs : List ColSpec) : ShowAll (specs.map ColSpec.toJson) [] := by
  apply ShowAll.none
  intro item member
  obtain ⟨spec, -, rfl⟩ := List.mem_map.mp member
  exact spec.shows

/-! ## Nodes and the records around them -/

mutual

/-- An inline is written as an object in front of those of the nodes inside it. -/
theorem Inline.shows : ∀ inline : Inline,
    (Node.inline inline).toJson.Shows (.inline inline :: inline.inner)
  | .str text => .node rfl (.string text)
  | .emph content => .node rfl (.list (Inline.shows_all content))
  | .underline content => .node rfl (.list (Inline.shows_all content))
  | .strong content => .node rfl (.list (Inline.shows_all content))
  | .strikeout content => .node rfl (.list (Inline.shows_all content))
  | .superscript content => .node rfl (.list (Inline.shows_all content))
  | .subscript content => .node rfl (.list (Inline.shows_all content))
  | .smallCaps content => .node rfl (.list (Inline.shows_all content))
  | .quoted type content =>
      .node rfl (.list (.skip type.shows (.front (.list (Inline.shows_all content)) .nil)))
  | .cite citations content =>
      .node rfl (.list (.cons (.list (Citation.shows_all citations))
        (.front (.list (Inline.shows_all content)) .nil)))
  | .code attr text => .node rfl (.list (.skip attr.shows (.skip (.string text) .nil)))
  | .space => .bare rfl
  | .softBreak => .bare rfl
  | .lineBreak => .bare rfl
  | .math type text => .node rfl (.list (.skip type.shows (.skip (.string text) .nil)))
  | .raw format text => .node rfl (.list (.skip (.string format) (.skip (.string text) .nil)))
  | .link attr content target =>
      .node rfl (.list (.skip attr.shows
        (.front (.list (Inline.shows_all content)) (.skip target.shows .nil))))
  | .image attr content target =>
      .node rfl (.list (.skip attr.shows
        (.front (.list (Inline.shows_all content)) (.skip target.shows .nil))))
  | .note content => .node rfl (.list (Block.shows_all content))
  | .span attr content =>
      .node rfl (.list (.skip attr.shows (.front (.list (Inline.shows_all content)) .nil)))

theorem Inline.shows_all : ∀ content : List Inline,
    ShowAll (Inline.toJsons content) (Inline.nodesOf content)
  | [] => .nil
  | inline :: rest => .cons (Inline.shows inline) (Inline.shows_all rest)

theorem Inline.shows_lines : ∀ lines : List (List Inline),
    ShowAll (Inline.linesToJson lines) (Inline.nodesOfLines lines)
  | [] => .nil
  | line :: rest => .cons (.list (Inline.shows_all line)) (Inline.shows_lines rest)

theorem Citation.shows : ∀ citation : Citation, citation.toJson.Shows citation.nodes
  | ⟨key, before, after, mode, _, _⟩ =>
      .object rfl (.skip (.string key) (.cons (.list (Inline.shows_all before))
        (.front (.list (Inline.shows_all after))
          (.skip mode.shows (.skip (.int _) (.skip (.int _) .nil))))))

theorem Citation.shows_all : ∀ citations : List Citation,
    ShowAll (Citation.toJsons citations) (Citation.nodesOf citations)
  | [] => .nil
  | citation :: rest => .cons (Citation.shows citation) (Citation.shows_all rest)

theorem Block.shows : ∀ block : Block,
    (Node.block block).toJson.Shows (.block block :: block.inner)
  | .plain content => .node rfl (.list (Inline.shows_all content))
  | .para content => .node rfl (.list (Inline.shows_all content))
  | .lineBlock lines => .node rfl (.list (Inline.shows_lines lines))
  | .code attr text => .node rfl (.list (.skip attr.shows (.skip (.string text) .nil)))
  | .raw format text => .node rfl (.list (.skip (.string format) (.skip (.string text) .nil)))
  | .blockQuote content => .node rfl (.list (Block.shows_all content))
  | .orderedList attributes items =>
      .node rfl (.list (.skip attributes.shows (.front (.list (Block.shows_items items)) .nil)))
  | .bulletList items => .node rfl (.list (Block.shows_items items))
  | .definitionList items => .node rfl (.list (Block.shows_definitions items))
  | .header _ attr content =>
      .node rfl (.list (.skip (.int _) (.skip attr.shows
        (.front (.list (Inline.shows_all content)) .nil))))
  | .horizontalRule => .bare rfl
  | .table table => .node rfl (Table.shows table)
  | .figure attr caption content =>
      .node rfl (.list (.skip attr.shows (.cons (Caption.shows caption)
        (.front (.list (Block.shows_all content)) .nil))))
  | .div attr content =>
      .node rfl (.list (.skip attr.shows (.front (.list (Block.shows_all content)) .nil)))

theorem Block.shows_all : ∀ content : List Block,
    ShowAll (Block.toJsons content) (Block.nodesOf content)
  | [] => .nil
  | block :: rest => .cons (Block.shows block) (Block.shows_all rest)

theorem Block.shows_items : ∀ items : List (List Block),
    ShowAll (Block.itemsToJson items) (Block.nodesOfItems items)
  | [] => .nil
  | item :: rest => .cons (.list (Block.shows_all item)) (Block.shows_items rest)

theorem Block.shows_definitions : ∀ items : List (List Inline × List (List Block)),
    ShowAll (Block.definitionsToJson items) (Block.nodesOfDefinitions items)
  | [] => .nil
  | (term, definitions) :: rest =>
      .cons (.list (.cons (.list (Inline.shows_all term))
        (.front (.list (Block.shows_items definitions)) .nil))) (Block.shows_definitions rest)

theorem Caption.shows : ∀ caption : Caption, caption.toJson.Shows caption.nodes
  | ⟨none, long⟩ => .list (.skip rfl (.front (.list (Block.shows_all long)) .nil))
  | ⟨some short, long⟩ =>
      .list (.cons (.list (Inline.shows_all short)) (.front (.list (Block.shows_all long)) .nil))

theorem Table.shows : ∀ table : Table, table.toJson.Shows table.nodes
  | ⟨attr, caption, colSpecs, head, bodies, foot⟩ =>
      .list (.skip attr.shows (.cons (Caption.shows caption)
        (.skip (.list (ColSpec.shows_all colSpecs)) (.cons (TableHead.shows head)
          (.cons (.list (TableBody.shows_all bodies)) (.front (TableFoot.shows foot) .nil))))))

theorem TableHead.shows : ∀ head : TableHead, head.toJson.Shows head.nodes
  | ⟨attr, rows⟩ => .list (.skip attr.shows (.front (.list (Row.shows_all rows)) .nil))

theorem TableBody.shows : ∀ body : TableBody, body.toJson.Shows body.nodes
  | ⟨attr, _, head, rows⟩ =>
      .list (.skip attr.shows (.skip (.int _) (.cons (.list (Row.shows_all head))
        (.front (.list (Row.shows_all rows)) .nil))))

theorem TableBody.shows_all : ∀ bodies : List TableBody,
    ShowAll (TableBody.toJsons bodies) (TableBody.nodesOf bodies)
  | [] => .nil
  | body :: rest => .cons (TableBody.shows body) (TableBody.shows_all rest)

theorem TableFoot.shows : ∀ foot : TableFoot, foot.toJson.Shows foot.nodes
  | ⟨attr, rows⟩ => .list (.skip attr.shows (.front (.list (Row.shows_all rows)) .nil))

theorem Row.shows : ∀ row : Row, row.toJson.Shows row.nodes
  | ⟨attr, cells⟩ => .list (.skip attr.shows (.front (.list (Cell.shows_all cells)) .nil))

theorem Row.shows_all : ∀ rows : List Row, ShowAll (Row.toJsons rows) (Row.nodesOf rows)
  | [] => .nil
  | row :: rest => .cons (Row.shows row) (Row.shows_all rest)

theorem Cell.shows : ∀ cell : Cell, cell.toJson.Shows cell.nodes
  | ⟨attr, alignment, _, _, content⟩ =>
      .list (.skip attr.shows (.skip alignment.shows (.skip (.int _) (.skip (.int _)
        (.front (.list (Block.shows_all content)) .nil)))))

theorem Cell.shows_all : ∀ cells : List Cell, ShowAll (Cell.toJsons cells) (Cell.nodesOf cells)
  | [] => .nil
  | cell :: rest => .cons (Cell.shows cell) (Cell.shows_all rest)

end

/-! ## Metadata -/

/-- A map of metadata has no tag, even if one of its keys is `t`: a value is an object. -/
theorem MetaValue.isNode_entries (entries : List (String × MetaValue)) :
    Json.isNode (.object (entriesToJson entries)) = false := by
  have untagged : Json.tag? (.object (entriesToJson entries)) = none := by
    induction entries with
    | nil => rfl
    | cons entry rest ih =>
        obtain ⟨key, value⟩ := entry
        rw [Json.tag?, entriesToJson, List.lookup_cons]
        split
        · rename_i tag found
          -- The value under a key is an object, and a tag is a text.
          split at found
          · cases value <;> cases found
          · rw [Json.tag?, found] at ih
            cases ih
        · rfl
  rw [Json.isNode, Json.isBlock, Json.isInline, untagged]
  rfl

mutual

theorem MetaValue.shows : ∀ value : MetaValue, value.toJson.Shows value.nodes
  | .map entries =>
      .under (by decide) (.object (isNode_entries entries) (MetaValue.shows_entries entries))
  | .list items => .under (by decide) (.list (MetaValue.shows_all items))
  | .bool _ => .under (by decide) rfl
  | .string text => .under (by decide) (.string text)
  | .inlines content => .under (by decide) (.list (Inline.shows_all content))
  | .blocks content => .under (by decide) (.list (Block.shows_all content))

theorem MetaValue.shows_all : ∀ values : List MetaValue,
    ShowAll (MetaValue.toJsons values) (MetaValue.nodesOf values)
  | [] => .nil
  | value :: rest => .cons (MetaValue.shows value) (MetaValue.shows_all rest)

theorem MetaValue.shows_entries : ∀ entries : List (String × MetaValue),
    ShowAll ((MetaValue.entriesToJson entries).map Prod.snd) (MetaValue.nodesOfEntries entries)
  | [] => .nil
  | (_, value) :: rest => .cons (MetaValue.shows value) (MetaValue.shows_entries rest)

end

/-! ## Documents -/

/-- The filter that keeps every node and counts how often it is asked. -/
def NodeFilter.counting : NodeFilter Nat where
  block _ _ count := ⟨.pure .keep, count + 1⟩
  inline _ _ count := ⟨.pure .keep, count + 1⟩

namespace Document

/-- The objects in the encoding of a document that have the tags of nodes are its nodes in
reading order. -/
theorem shows (document : Document) : document.toJson.Shows document.nodes := by
  refine .object rfl (.skip (.list (.none ?_))
    (.cons (.object (MetaValue.isNode_entries _) (MetaValue.shows_entries _))
      (.front (.list (Block.shows_all _)) .nil)))
  intro item member
  obtain ⟨number, -, rfl⟩ := List.mem_map.mp member
  exact .int number.toNat

/-- The nodes offered to a filter that keeps all of them are written as the objects with the
tags of nodes in the encoding of the document, in the order in which these begin. As many
blocks and inlines are counted as there are objects with their tags. -/
theorem offers_eq_objects {σ : Type} {source : Document} {filter : NodeFilter σ}
    {format : String} {limit : Nat} {state : σ} (fits : source.height ≤ limit)
    (kept : ∀ offer ∈ source.offers filter format limit state, offer.answer = .keep) :
    (source.offers filter format limit state).map (fun offer => offer.node.toJson) =
        source.toJson.objects.filter Json.isNode ∧
      (source.walkStats filter format limit state).blocks =
        source.toJson.objects.countP Json.isBlock ∧
      (source.walkStats filter format limit state).inlines =
        source.toJson.objects.countP Json.isInline := by
  have offered := map_node_offers fits kept
  have encoded := source.shows
  rw [Shows.countP_isBlock encoded, Shows.countP_isInline encoded, ← offered, List.countP_map,
    List.countP_map, walkStats_eq_after]
  refine ⟨?_, Nat.zero_add _, Nat.zero_add _⟩
  rw [encoded, ← offered, List.map_map]
  rfl

/-- A document with an entry `t` in its metadata, a table with both captions, and a citation
with a note. -/
def scattered : Document where
  version := currentVersion
  metadata :=
    [("t", .string "Para"), ("u", .map [("t", .inlines [.str "a"]), ("v", .bool true)])]
  blocks :=
    [.table ⟨.empty, ⟨some [.str "b"], [.plain [.code .empty "c"]]⟩, [⟨.left, .default⟩],
      ⟨.empty, []⟩,
      [⟨.empty, 0, [.ofCells [.ofBlocks [.para [.space]]]], [.ofCells [.ofBlocks []]]⟩],
      ⟨.empty, [.ofCells [.ofBlocks [.horizontalRule]]]⟩⟩,
    .para [.cite [⟨"d", [.str "e"], [.note [.plain []]], .normal, 1, 0⟩] [.str "f"]]]

/-- A filter that counts is offered six blocks and eight inlines of this document. -/
theorem offers_eq_objects_scattered :
    (scattered.offers .counting "latex" 6 0).map (fun offer => offer.node.toJson) =
        scattered.toJson.objects.filter Json.isNode ∧
      (scattered.walkStats .counting "latex" 6 0).blocks = 6 ∧
      (scattered.walkStats .counting "latex" 6 0).inlines = 8 := by
  have fits : scattered.height ≤ 6 := by decide
  have kept : ∀ offer ∈ scattered.offers .counting "latex" 6 0, offer.answer = .keep := by
    decide +kernel
  obtain ⟨offered, blocks, inlines⟩ := offers_eq_objects fits kept
  exact ⟨offered, blocks.trans (by decide +kernel), inlines.trans (by decide +kernel)⟩

end Document

end DocFilter
