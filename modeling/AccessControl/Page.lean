/-!
# Pages of a listing

A page holds some items of a listing, the number of all of them, and the window that was asked for.
-/

namespace AccessControl

/-- The size of a listing and the window that was asked for. -/
structure PageInfo where
  total : Nat
  offset : Nat
  limit : Nat
deriving DecidableEq, Repr

/-- A page of items. -/
structure Page (α : Type) where
  info : PageInfo
  items : List α
deriving DecidableEq, Repr

namespace Page

variable {α β : Type}

/-- The page without items, for a given window. -/
def empty (offset limit : Nat) : Page α :=
  ⟨⟨0, offset, limit⟩, []⟩

/-- Whether the page has no items. -/
def isEmpty (page : Page α) : Bool :=
  page.items.isEmpty

/-- Changes every item and keeps the window and the total. -/
def map (f : α → β) (page : Page α) : Page β :=
  ⟨page.info, page.items.map f⟩

/-- The same items under another window. -/
def withWindow (page : Page α) (offset limit : Nat) : Page α :=
  ⟨⟨page.info.total, offset, limit⟩, page.items⟩

end Page

/-- The part of a listing inside a window. -/
def window {α : Type} (offset limit : Nat) (xs : List α) : List α :=
  (xs.drop offset).take limit

end AccessControl
