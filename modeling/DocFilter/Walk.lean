import DocFilter.Document.Traverse
import DocFilter.Filter.Basic

/-!
# Walks

A walk offers every node of a document to a filter, a parent before its
children, and rebuilds each list of children from the answers. What replaces a
node is not offered itself, but its children are, so that content carried over
into a replacement is still visited.

A filter may put ever taller nodes into the place of others, so the nesting of
a walk has a limit. A walk that stays below it never notices it.
-/

namespace DocFilter

/-- Why a walk does not finish. -/
inductive Halt where
  | failed (error : Error)
  /-- Nodes are nested more deeply than the limit of the walk. -/
  | tooDeep

/-- What a walk has counted. -/
structure WalkStats where
  /-- Blocks offered to the filter. -/
  blocks : Nat := 0
  /-- Inlines offered to the filter. -/
  inlines : Nat := 0
  /-- Nodes that the filter replaced. -/
  replaced : Nat := 0
  deriving DecidableEq

/-- How far a walk has come. -/
structure Progress (σ : Type) where
  state : σ
  stats : WalkStats := {}
  notices : Array Notice := #[]

/-- A walk with a filter whose states are in `σ`. -/
abbrev Walk (σ α : Type) := ExceptT Halt (StateM (Progress σ)) α

namespace Walk

variable {σ : Type}

/-- Takes in what a filter answers. -/
def receive {α : Type} (ask : σ → Reply σ α) : Walk σ (Action α) := do
  let progress ← get
  let reply := ask progress.state
  set { progress with
    state := reply.state
    notices := progress.notices ++ reply.report.notices }
  match reply.report.outcome with
  | .ok action => return action
  | .error error => throw (.failed error)

def count (change : WalkStats → WalkStats) : Walk σ Unit :=
  modify fun progress => { progress with stats := change progress.stats }

def offerBlock (filter : NodeFilter σ) (context : Context) (node : Block) :
    Walk σ (Action Block) := do
  count fun stats => { stats with blocks := stats.blocks + 1 }
  receive (filter.block context node)

def offerInline (filter : NodeFilter σ) (context : Context) (node : Inline) :
    Walk σ (Action Inline) := do
  count fun stats => { stats with inlines := stats.inlines + 1 }
  receive (filter.inline context node)

def countReplaced : Walk σ Unit :=
  count fun stats => { stats with replaced := stats.replaced + 1 }

/-- Rebuilds a list of nodes: each is offered, and the walk descends into it,
or into what takes its place. -/
def rebuild {α : Type} (offer : α → Walk σ (Action α)) (descend : α → Walk σ α) :
    List α → Walk σ (List α)
  | [] => return []
  | node :: rest => do
      let action ← offer node
      let nodes ←
        match action with
        | .keep => do
            let same ← descend node
            pure [same]
        | .one replacement => do
            countReplaced
            let new ← descend replacement
            pure [new]
        | .many replacements => do
            countReplaced
            replacements.mapM descend
      let others ← rebuild offer descend rest
      return nodes ++ others

mutual

/-- Walks the children of a block, which itself has been dealt with. -/
def descendBlock (filter : NodeFilter σ) (context : Context) : Nat → Block → Walk σ Block
  | 0, _ => throw .tooDeep
  | limit + 1, node =>
      node.traverse
        (rebuild (offerInline filter context) (descendInline filter context limit))
        (rebuild (offerBlock filter context) (descendBlock filter context limit))

def descendInline (filter : NodeFilter σ) (context : Context) : Nat → Inline → Walk σ Inline
  | 0, _ => throw .tooDeep
  | limit + 1, node =>
      node.traverse
        (rebuild (offerInline filter context) (descendInline filter context limit))
        (rebuild (offerBlock filter context) (descendBlock filter context limit))

end

section

variable (filter : NodeFilter σ) (context : Context) (limit : Nat)

def inlines : List Inline → Walk σ (List Inline) :=
  rebuild (offerInline filter context) (descendInline filter context limit)

def blocks : List Block → Walk σ (List Block) :=
  rebuild (offerBlock filter context) (descendBlock filter context limit)

def metaValue : MetaValue → Walk σ MetaValue :=
  MetaValue.traverse (inlines filter context limit) (blocks filter context limit)

def metadata : Metadata → Walk σ Metadata :=
  MetaValue.traverseEntries (inlines filter context limit) (blocks filter context limit)

end

/-- Walks a document: its metadata, and then its blocks. The filter sees the
metadata as it was before. -/
def document (filter : NodeFilter σ) (format : String) (limit : Nat) (source : Document) :
    Walk σ Document := do
  let context : Context := ⟨format, source.metadata⟩
  let result ← source.traverse (inlines filter context limit) (blocks filter context limit)
  modify fun progress =>
    let stats := progress.stats
    { progress with
      notices := progress.notices.push
        (.walked stats.blocks stats.inlines format stats.replaced) }
  return result

end Walk

/-- What comes of a computation with a filter: a result, the state that the
filter is left in, and notices. -/
structure Outcome (σ α : Type) where
  result : Except Halt α
  state : σ
  notices : List Notice

def Document.filter {σ : Type} (source : Document) (filter : NodeFilter σ) (format : String)
    (limit : Nat) (state : σ) : Outcome σ Document :=
  let (result, progress) := (Walk.document filter format limit source).run { state }
  ⟨result, progress.state, progress.notices.toList⟩

end DocFilter
