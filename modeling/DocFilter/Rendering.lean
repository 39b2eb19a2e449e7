import DocFilter.Filter.Chain
import DocFilter.Listing
import DocFilter.Tabular.Render

/-!
# Renderings

The filters that come with the library, and what chains of them are.
-/

namespace DocFilter

/-- A filter that renders one kind of nodes. -/
inductive Rendering where
  | listings (renderer : Listing.Renderer)
  | tables (options : Tabular.Options)
  deriving DecidableEq

namespace Rendering

/-- The format for which a rendering does anything. -/
def targetFormat : Rendering → String
  | .listings renderer => renderer.options.targetFormat
  | .tables options => options.targetFormat

def filter {σ : Type} : Rendering → NodeFilter σ
  | .listings renderer => renderer.filter
  | .tables options => options.filter

end Rendering

def Chain.rendering {σ : Type} (chain : Chain Rendering) : NodeFilter σ :=
  chain.toFilter Rendering.filter

end DocFilter
