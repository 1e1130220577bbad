import Mathlib.Data.List.Basic
import Aegis.Lib.Kotlin

/-!
# The clicks on the MT5 window

`findAndClick` searches the tree of the active window for a clickable node with a text, and
clicks on it; where the click is refused it goes on.  At most the last click is accepted, and a
search without success has tried every such node, or one above it (`findAndClick_searches`).
-/

namespace Aegis.Mobile

open Aegis.Lib

/-- `AccessibilityNodeInfo`, with what `performAction(ACTION_CLICK)` and `getChild` return. -/
inductive Node where
  | mk (text : Option String) (isClickable accepts : Bool) (children : List Node)

namespace Node

def text : Node → Option String
  | mk text _ _ _ => text

def isClickable : Node → Bool
  | mk _ isClickable _ _ => isClickable

def accepts : Node → Bool
  | mk _ _ accepts _ => accepts

def children : Node → List Node
  | mk _ _ _ children => children

/-- The node is what a search for the text clicks on. -/
def Answers (text : String) (node : Node) : Bool :=
  (node.text.map (Kotlin.containsIgnoreCase · text)) == some true && node.isClickable

/-- The node is in the tree. -/
inductive Within : Node → Node → Prop
  | root (node : Node) : Within node node
  | child {node child parent : Node} (member : child ∈ parent.children)
      (within : Within node child) : Within node parent

end Node

mutual

/-- The clicks, and whether one was accepted. -/
def findAndClick (text : String) : Node → List Node × Bool
  | .mk nodeText isClickable accepts children =>
      if Node.Answers text (.mk nodeText isClickable accepts children) then
        ([.mk nodeText isClickable accepts children], accepts)
      else findAmong text children

/-- The loop over the children. -/
def findAmong (text : String) : List Node → List Node × Bool
  | [] => ([], false)
  | child :: rest =>
      if (findAndClick text child).2 then ((findAndClick text child).1, true)
      else ((findAndClick text child).1 ++ (findAmong text rest).1, (findAmong text rest).2)

end

/-- `performMt5Click`, on the root of the active window. -/
def performMt5Click (signal : String) (rootInActiveWindow : Option Node) : List Node :=
  match rootInActiveWindow with
  | none => []
  | some root => (findAndClick (if signal = "BUY" then "Buy" else "Sell") root).1

/-! ## What a search does -/

/-- A search through some trees: which clicks it makes, and whether one was accepted. -/
structure Searched (text : String) (roots : List Node) (clicks : List Node × Bool) : Prop where
  within : ∀ clicked ∈ clicks.1, clicked.Answers text ∧ ∃ root ∈ roots, clicked.Within root
  refused : ∀ clicked ∈ clicks.1.dropLast, clicked.accepts = false
  found : clicks.2 = true ↔ ∃ clicked ∈ clicks.1, clicked.accepts
  complete : clicks.2 = false → ∀ root ∈ roots, ∀ node : Node, node.Within root →
    node.Answers text → ∃ clicked ∈ clicks.1, node.Within clicked

namespace Searched

variable {text : String} {node : Node} {roots rest : List Node} {clicks more : List Node × Bool}

theorem nil : Searched text [] ([], false) where
  within := nofun
  refused := nofun
  found := by simp
  complete := nofun

theorem answer (answers : node.Answers text) : Searched text [node] ([node], node.accepts) where
  within clicked member := by
    rw [List.mem_singleton.mp member]
    exact ⟨answers, node, List.mem_singleton_self _, .root node⟩
  refused := nofun
  found := by simp
  complete _ root among below within _ := by
    rw [List.mem_singleton.mp among] at within
    exact ⟨node, List.mem_singleton_self _, within⟩

/-- The search goes on below a node that it does not click on. -/
theorem descend (other : ¬ node.Answers text) (searched : Searched text node.children clicks) :
    Searched text [node] clicks where
  within clicked member := by
    obtain ⟨answers, child, below, within⟩ := searched.within clicked member
    exact ⟨answers, node, List.mem_singleton_self _, .child below within⟩
  refused := searched.refused
  found := searched.found
  complete failed root among below within answers := by
    rw [List.mem_singleton.mp among] at within
    cases within with
    | root => exact absurd answers other
    | child member inner => exact searched.complete failed _ member below inner answers

/-- It ends with the first success. -/
theorem stop (searched : Searched text [node] clicks) (success : clicks.2 = true)
    (rest : List Node) : Searched text (node :: rest) (clicks.1, true) where
  within clicked member := by
    obtain ⟨answers, root, among, within⟩ := searched.within clicked member
    exact ⟨answers, root, List.mem_cons.mpr (.inl (List.mem_singleton.mp among)), within⟩
  refused := searched.refused
  found := by rw [← searched.found, success]
  complete := nofun

theorem none_accepts (searched : Searched text roots clicks) (failed : clicks.2 = false) :
    ∀ clicked ∈ clicks.1, clicked.accepts = false := by
  intro clicked member
  cases accepts : clicked.accepts with
  | false => rfl
  | true =>
      have success := searched.found.mpr ⟨clicked, member, accepts⟩
      rw [failed] at success
      cases success

theorem append (searched : Searched text [node] clicks) (failed : clicks.2 = false)
    (searchedRest : Searched text rest more) :
    Searched text (node :: rest) (clicks.1 ++ more.1, more.2) where
  within clicked member := by
    rcases List.mem_append.mp member with early | late
    · obtain ⟨answers, root, among, within⟩ := searched.within clicked early
      exact ⟨answers, root, List.mem_cons.mpr (.inl (List.mem_singleton.mp among)), within⟩
    · obtain ⟨answers, root, among, within⟩ := searchedRest.within clicked late
      exact ⟨answers, root, List.mem_cons_of_mem _ among, within⟩
  refused clicked member := by
    dsimp only at member
    by_cases last : more.1 = []
    · rw [last, List.append_nil] at member
      exact searched.refused clicked member
    · rw [List.dropLast_append_of_ne_nil last] at member
      rcases List.mem_append.mp member with early | late
      · exact searched.none_accepts failed clicked early
      · exact searchedRest.refused clicked late
  found := by
    rw [searchedRest.found]
    constructor
    · intro held
      rcases held with ⟨clicked, member, accepts⟩
      exact ⟨clicked, List.mem_append_right _ member, accepts⟩
    · intro held
      rcases held with ⟨clicked, member, accepts⟩
      rcases List.mem_append.mp member with early | late
      · rw [searched.none_accepts failed clicked early] at accepts
        cases accepts
      · exact ⟨clicked, late, accepts⟩
  complete failedRest root among below within answers := by
    rcases List.mem_cons.mp among with rfl | later
    · obtain ⟨clicked, member, inner⟩ :=
        searched.complete failed root (List.mem_singleton_self _) below within answers
      exact ⟨clicked, List.mem_append_left _ member, inner⟩
    · obtain ⟨clicked, member, inner⟩ :=
        searchedRest.complete failedRest root later below within answers
      exact ⟨clicked, List.mem_append_right _ member, inner⟩

/-- At most one click is accepted. -/
theorem accepted_le_one (searched : Searched text roots clicks) :
    clicks.1.countP Node.accepts ≤ 1 := by
  rcases List.eq_nil_or_concat clicks.1 with none | ⟨early, last, some⟩
  · rw [none]
    exact Nat.zero_le _
  · have refused := searched.refused
    rw [some, List.concat_eq_append, List.dropLast_concat] at refused
    have zero : early.countP Node.accepts = 0 :=
      List.countP_eq_zero.mpr fun clicked member => by simp [refused clicked member]
    rw [some, List.concat_eq_append, List.countP_append, zero, Nat.zero_add]
    exact List.countP_le_length

end Searched

mutual

theorem searched_findAndClick (text : String) :
    ∀ node, Searched text [node] (findAndClick text node)
  | .mk nodeText isClickable accepts children => by
      rw [findAndClick]
      split
      next answers => exact .answer answers
      next other => exact .descend other (searched_findAmong text children)

theorem searched_findAmong (text : String) : ∀ nodes, Searched text nodes (findAmong text nodes)
  | [] => by
      rw [findAmong]
      exact .nil
  | child :: rest => by
      have first := searched_findAndClick text child
      rw [findAmong]
      split
      next success => exact first.stop success rest
      next failure =>
        exact first.append (Bool.not_eq_true _ ▸ failure) (searched_findAmong text rest)

end

theorem accepted_performMt5Click (signal : String) (rootInActiveWindow : Option Node) :
    (performMt5Click signal rootInActiveWindow).countP Node.accepts ≤ 1 := by
  cases rootInActiveWindow with
  | none => exact Nat.zero_le _
  | some root => exact (searched_findAndClick _ root).accepted_le_one

/-- **The search.**  It clicks on clickable nodes with the text only, and on none after one that
accepts; when no click is accepted, each such node of the window was clicked or is below one that
was. -/
theorem findAndClick_searches (text : String) (root : Node) :
    let clicks := findAndClick text root
    (∀ clicked ∈ clicks.1, clicked.Answers text ∧ clicked.Within root) ∧
      clicks.1.countP Node.accepts ≤ 1 ∧
      (∀ clicked ∈ clicks.1.dropLast, clicked.accepts = false) ∧
      (clicks.2 = true ↔ ∃ clicked ∈ clicks.1, clicked.accepts) ∧
      (clicks.2 = false → ∀ node : Node, node.Within root → node.Answers text →
        ∃ clicked ∈ clicks.1, node.Within clicked) := by
  have searched := searched_findAndClick text root
  refine ⟨fun clicked member => ?_, searched.accepted_le_one, searched.refused, searched.found,
    fun failed => searched.complete failed root (List.mem_singleton_self _)⟩
  obtain ⟨answers, other, among, within⟩ := searched.within clicked member
  rw [List.mem_singleton.mp among] at within
  exact ⟨answers, within⟩

end Aegis.Mobile
