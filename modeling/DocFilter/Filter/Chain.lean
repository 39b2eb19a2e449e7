import DocFilter.Filter.Basic

/-!
# Chains of filters

Filters are combined into chains, and chains into longer ones. A chain asks
its members in order.
-/

namespace DocFilter

/-- A combination of filters of some type. -/
inductive Chain (φ : Type) where
  | leaf (filter : φ)
  | identity
  | composite (members : List (Chain φ))

namespace Chain

variable {φ : Type}

def empty : Chain φ := .composite []

/-- The number of filters that a chain asks directly. -/
def length : Chain φ → Nat
  | .composite members => members.length
  | _ => 1

def isEmpty (filters : Chain φ) : Bool := filters.length == 0

/-- Puts one more filter at the end of a chain. -/
def add (filters member : Chain φ) : Chain φ :=
  match filters with
  | .composite members => .composite (members ++ [member])
  | other => .composite [other, member]

mutual

def toFilter {σ : Type} (interpret : φ → NodeFilter σ) : Chain φ → NodeFilter σ
  | .leaf filter => interpret filter
  | .identity => .identity
  | .composite members => toFilters interpret members

def toFilters {σ : Type} (interpret : φ → NodeFilter σ) : List (Chain φ) → NodeFilter σ
  | [] => .identity
  | member :: rest => (toFilter interpret member).orElse (toFilters interpret rest)

end

mutual

def leaves : Chain φ → List φ
  | .leaf filter => [filter]
  | .identity => []
  | .composite members => leavesOf members

def leavesOf : List (Chain φ) → List φ
  | [] => []
  | member :: rest => member.leaves ++ leavesOf rest

end

end Chain

end DocFilter
