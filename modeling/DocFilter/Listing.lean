import DocFilter.Filter.Basic
import DocFilter.Template

/-!
# Code listings

Code is rendered as markup of the `minted` package: a block as a listing with
caption and label, code in running text as a single command. The first class of
a node is its language, and the attribute `caption` is the caption of its
listing; all other attributes are options of the listing.
-/

namespace DocFilter.Listing

/-- The attribute that holds the caption of a listing. -/
def captionKey : String := "caption"

/-- What a listing is made of. -/
structure CodeParts where
  label : String
  language : String
  caption : Option String
  /-- The other attributes as `key=value`, separated by a comma and a blank. -/
  attributes : String
  contents : String
  deriving DecidableEq

namespace CodeParts

/-- The parts of code with the given attributes. -/
def ofAttr (attr : Attr) (contents defaultLanguage : String) : CodeParts where
  label := attr.identifier
  language := attr.firstClass?.getD defaultLanguage
  caption := attr.get? captionKey
  attributes :=
    String.intercalate ", "
      ((attr.pairs.filter fun (key, _) => key != captionKey).map
        fun (key, value) => key ++ "=" ++ value)
  contents := contents

def ofBlock? (defaultLanguage : String) : Block → Option CodeParts
  | .code attr text => some (ofAttr attr text defaultLanguage)
  | _ => none

def ofInline? (defaultLanguage : String) : Inline → Option CodeParts
  | .code attr text => some (ofAttr attr text defaultLanguage)
  | _ => none

/-- The texts that templates refer to by name. -/
def fields (parts : CodeParts) : List (String × String) :=
  [("label", parts.label), ("contents", parts.contents), ("language", parts.language),
    ("attributes", parts.attributes), ("caption", parts.caption.getD "")]

end CodeParts

/-- The names that templates may refer to. -/
def templateFields : List String := ["label", "contents", "language", "attributes", "caption"]

/-- The format for which code is rendered unless another is chosen. -/
def defaultTargetFormat : String := "latex"

/-- The language of code without a class unless another is chosen. -/
def defaultLanguage : String := "text"

/-- A listing float around the code, with caption and label. -/
def defaultBlockTemplate : String :=
  "\n\\begin\x7blisting\x7d\n\\begin\x7bminted\x7d[$attributes]\x7b$language\x7d\n" ++
    "$contents\n\\end\x7bminted\x7d\n\\caption\x7b$caption\x7d\n\\label\x7b$label\x7d\n" ++
    "\\end\x7blisting\x7d\n"

/-- A single command around the code. -/
def defaultInlineTemplate : String :=
  "\\mintinline[$attributes]\x7b$language\x7d\x7b$contents\x7d"

/-- How code is rendered. -/
structure Options where
  /-- The format for which code is rendered; documents in others stay as they are. -/
  targetFormat : String := defaultTargetFormat
  defaultLanguage : String := defaultLanguage
  blockTemplate : String := defaultBlockTemplate
  inlineTemplate : String := defaultInlineTemplate
  deriving DecidableEq

structure Renderer where
  options : Options
  deriving DecidableEq

namespace Renderer

def blockTemplate (renderer : Renderer) : Template := ⟨renderer.options.blockTemplate⟩

def inlineTemplate (renderer : Renderer) : Template := ⟨renderer.options.inlineTemplate⟩

/-- A renderer whose templates refer to nothing but the fields there are. -/
def ofOptions? (options : Options) : Except Error Renderer := do
  let renderer : Renderer := ⟨options⟩
  (renderer.blockTemplate.validate templateFields).mapError .template
  (renderer.inlineTemplate.validate templateFields).mapError .template
  return renderer

def renderBlock (renderer : Renderer) (parts : CodeParts) : Except Error String :=
  (renderer.blockTemplate.substitute parts.fields).mapError .template

def renderInline (renderer : Renderer) (parts : CodeParts) : Except Error String :=
  (renderer.inlineTemplate.substitute parts.fields).mapError .template

def onBlock (renderer : Renderer) (context : Context) (node : Block) :
    Report (Action Block) := do
  if context.format != renderer.options.targetFormat then return .keep
  match CodeParts.ofBlock? renderer.options.defaultLanguage node with
  | none => return .keep
  | some parts =>
      Report.note (.codeRendered parts.label parts.language)
      let markup ← Report.ofExcept (renderer.renderBlock parts)
      return .one (.raw context.format markup)

def onInline (renderer : Renderer) (context : Context) (node : Inline) :
    Report (Action Inline) := do
  if context.format != renderer.options.targetFormat then return .keep
  match CodeParts.ofInline? renderer.options.defaultLanguage node with
  | none => return .keep
  | some parts =>
      let markup ← Report.ofExcept (renderer.renderInline parts)
      return .one (.raw context.format markup)

def filter {σ : Type} (renderer : Renderer) : NodeFilter σ :=
  .stateless renderer.onBlock renderer.onInline

end Renderer

end DocFilter.Listing
