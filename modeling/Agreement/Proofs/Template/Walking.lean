import Agreement.Proofs.Template.Articles

/-!
# Nested lists as they are walked

A nested list is walked with a stack of the lists that are not finished. `walkRound` is one round of
this loop, and `walkRounds` a number of them. A round keeps what was reached together with what the
lists on the stack still have to give, where every list is cut at its first missing entry
(`stackLeaves`), and takes one from the work that they make (`walkRound_keeps`). So the loop ends,
in as many rounds as there is work, and it has reached the leaves of the tree: `walk_leaves`.
-/

namespace Agreement

mutual

/-- The tree with every list in it cut at its first missing entry. -/
def Node.cut : Node → Node
  | .sequence nodes => .sequence (Node.cutAll nodes)
  | .directive d => .directive d
  | .stray v => .stray v
  | .gap => .gap

/-- The list of trees up to its first missing entry, and the lists in it likewise. -/
def Node.cutAll : List Node → List Node
  | [] => []
  | .gap :: _ => []
  | n :: ns => n.cut :: Node.cutAll ns

end

mutual

/-- The leaves of a tree from left to right. -/
def Node.leaves : Node → List Leaf
  | .sequence nodes => Node.leavesAll nodes
  | .directive d => [.directive d]
  | .stray v => [.stray v]
  | .gap => []

/-- The leaves of some trees from left to right. -/
def Node.leavesAll : List Node → List Leaf
  | [] => []
  | n :: ns => n.leaves ++ Node.leavesAll ns

end

/-- An entry as a list that is not nested has it. -/
def Leaf.node : Leaf → Node
  | .directive d => .directive d
  | .stray v => .stray v

/-- One round of the walk: the entry that it reaches, if any, and the stack behind it. A list that
is finished is taken off the stack, and so is one with a missing entry next; the next list that is
nested in the one on top is put on the stack. Without a list the walk is over. -/
def walkRound : List (List Node) → Option (List Leaf × List (List Node))
  | [] => none
  | [] :: stack => some ([], stack)
  | (.gap :: _) :: stack => some ([], stack)
  | (.directive d :: nodes) :: stack => some ([.directive d], nodes :: stack)
  | (.stray v :: nodes) :: stack => some ([.stray v], nodes :: stack)
  | (.sequence inner :: nodes) :: stack => some ([], inner :: nodes :: stack)

/-- A number of rounds of the walk: the entries that they reach, and the stack behind them. -/
def walkRounds : Nat → List (List Node) → Option (List Leaf × List (List Node))
  | 0, stack => some ([], stack)
  | n + 1, stack => do
    let (reached, stack) ← walkRound stack
    let (later, stack) ← walkRounds n stack
    return (reached ++ later, stack)

/-- The leaves that the lists on a stack still have to give, the list on top first. -/
def stackLeaves (stack : List (List Node)) : List Leaf :=
  stack.flatMap fun nodes => Node.leavesAll (Node.cutAll nodes)

/-- The work that the lists on a stack make, without what is cut off. -/
def stackWork (stack : List (List Node)) : Nat :=
  Node.work (stack.map Node.cutAll)

section Rounds

variable {stack stack' : List (List Node)} {reached : List Leaf}

/-- The work of a stack is that of the list on top, its end counted, and that of the others. -/
theorem stackWork_cons (nodes : List Node) (stack : List (List Node)) :
    stackWork (nodes :: stack) =
      Node.countAll (Node.cutAll nodes) + 1 + stackWork stack := rfl

/-- A round keeps what has been reached together with what is still to be reached, and takes one
from the work. It does what the walk does. -/
theorem walkRound_keeps (h : walkRound stack = some (reached, stack')) :
    stackLeaves stack = reached ++ stackLeaves stack' ∧
      stackWork stack = stackWork stack' + 1 ∧ walk stack = reached ++ walk stack' := by
  rcases stack with _ | ⟨_ | ⟨n, nodes⟩, stack⟩
  · cases h
  · cases h
    refine ⟨rfl, ?_, by rw [walk]; rfl⟩
    show 0 + 1 + stackWork stack' = stackWork stack' + 1
    omega
  · cases n with
    | gap =>
        cases h
        refine ⟨rfl, ?_, by rw [walk]; rfl⟩
        show 0 + 1 + stackWork stack' = stackWork stack' + 1
        omega
    | directive _ | stray _ =>
        cases h
        refine ⟨rfl, ?_, by rw [walk]; rfl⟩
        show 1 + Node.countAll (Node.cutAll nodes) + 1 + stackWork stack = _
        rw [stackWork_cons]
        omega
    | sequence inner =>
        cases h
        refine ⟨List.append_assoc _ _ (stackLeaves stack), ?_, by rw [walk]; rfl⟩
        -- a nested list counts once for itself and once for its end, and the end is still to come
        show 2 + Node.countAll (Node.cutAll inner) + Node.countAll (Node.cutAll nodes) + 1 +
          stackWork stack = _
        rw [stackWork_cons, stackWork_cons]
        omega

/-- There is a further round as long as there is a list on the stack. -/
theorem exists_walkRound (nodes : List Node) (stack : List (List Node)) :
    ∃ reached stack', walkRound (nodes :: stack) = some (reached, stack') := by
  rcases nodes with _ | ⟨n, nodes⟩
  · exact ⟨_, _, rfl⟩
  · cases n <;> exact ⟨_, _, rfl⟩

/-- What a round keeps, a number of rounds keeps. -/
theorem walkRounds_keeps {n : Nat} (h : walkRounds n stack = some (reached, stack')) :
    stackLeaves stack = reached ++ stackLeaves stack' ∧
      stackWork stack = stackWork stack' + n ∧ walk stack = reached ++ walk stack' := by
  induction n generalizing stack reached with
  | zero =>
      cases h
      exact ⟨rfl, rfl, rfl⟩
  | succ n ih =>
      obtain ⟨⟨first, next⟩, hround, h⟩ := Option.bind_eq_some_iff.1 h
      obtain ⟨⟨later, last⟩, hrounds, h⟩ := Option.bind_eq_some_iff.1 h
      cases h
      obtain ⟨hleaves, hwork, hwalk⟩ := walkRound_keeps hround
      obtain ⟨hleaves', hwork', hwalk'⟩ := ih hrounds
      refine ⟨?_, ?_, ?_⟩
      · rw [hleaves, hleaves', List.append_assoc]
      · omega
      · rw [hwalk, hwalk', List.append_assoc]

/-- The stack is empty after as many rounds as there is work. -/
theorem exists_walkRounds (stack : List (List Node)) :
    ∃ reached, walkRounds (stackWork stack) stack = some (reached, []) := by
  generalize hwork : stackWork stack = n
  induction n generalizing stack with
  | zero =>
      cases stack with
      | nil => exact ⟨[], rfl⟩
      | cons nodes stack =>
          rw [stackWork_cons] at hwork
          omega
  | succ n ih =>
      cases stack with
      | nil => cases hwork
      | cons nodes stack =>
          obtain ⟨first, next, hround⟩ := exists_walkRound nodes stack
          obtain ⟨-, hnext, -⟩ := walkRound_keeps hround
          obtain ⟨later, hrounds⟩ := ih next (by omega)
          refine ⟨first ++ later, ?_⟩
          rw [walkRounds, hround]
          show (walkRounds n next >>= _) = _
          rw [hrounds]
          rfl

/-- The stack is empty after as many rounds as there is work and not before, and the leaves of the
lists that were on it have been reached then. -/
theorem walkRounds_eq_some_iff {n : Nat} :
    walkRounds n stack = some (reached, []) ↔
      n = stackWork stack ∧ reached = stackLeaves stack := by
  have hdone {n : Nat} {reached : List Leaf} (h : walkRounds n stack = some (reached, [])) :
      n = stackWork stack ∧ reached = stackLeaves stack := by
    obtain ⟨hleaves, hwork, -⟩ := walkRounds_keeps h
    have hnone : stackWork [] = 0 := rfl
    refine ⟨by omega, ?_⟩
    rw [hleaves]
    exact (List.append_nil reached).symm
  refine ⟨hdone, ?_⟩
  rintro ⟨rfl, rfl⟩
  obtain ⟨reached, hrounds⟩ := exists_walkRounds stack
  rw [hrounds, (hdone hrounds).2]

/-- The walk of a stack gives the leaves of its lists. -/
theorem walk_eq_stackLeaves (stack : List (List Node)) : walk stack = stackLeaves stack := by
  obtain ⟨reached, hrounds⟩ := exists_walkRounds stack
  obtain ⟨hleaves, -, hwalk⟩ := walkRounds_keeps hrounds
  rw [hwalk, hleaves, walk]
  rfl

end Rounds

/-- A list that is not nested is walked as it stands. -/
theorem walk_map_node (leaves : List Leaf) : walk [leaves.map Leaf.node] = leaves := by
  induction leaves with
  | nil => simp [walk]
  | cons leaf leaves ih => cases leaf <;> rw [List.map_cons, Leaf.node, walk, ih]

/-- A nested list is walked in as many rounds as it has work without what is cut off, and the walk
reaches its leaves from left to right, where every list is cut at its first missing entry. An
execution of the nested list is one of the list of these leaves: it has the same text or the same
error. -/
theorem walk_leaves (nodes : List Node) :
    let leaves := Node.leavesAll (Node.cutAll nodes)
    (∀ n reached, walkRounds n [nodes] = some (reached, []) ↔
        n = Node.work [Node.cutAll nodes] ∧ reached = leaves) ∧
      walk [nodes] = leaves ∧
      ∀ (inflect : Inflector) (bindings : Bindings),
        executeNodes inflect bindings nodes =
            executeNodes inflect bindings (leaves.map Leaf.node) ∧
          ∀ ds : List Directive, leaves = ds.map Leaf.directive →
            executeNodes inflect bindings nodes = execute inflect bindings ds := by
  intro leaves
  have hleaves : stackLeaves [nodes] = leaves := List.append_nil leaves
  have hwalk : walk [nodes] = leaves := by rw [walk_eq_stackLeaves, hleaves]
  refine ⟨fun n reached => ?_, hwalk, fun inflect bindings => ⟨?_, fun ds hds => ?_⟩⟩
  · rw [walkRounds_eq_some_iff, hleaves]
    rfl
  · rw [executeNodes, executeNodes, hwalk, walk_map_node]
  · exact executeNodes_eq_execute (hwalk.trans hds)

/-- A list that is cut inside a nested list and behind it. -/
def cutWords : List Node :=
  [.sequence [.directive (.literal "a"), .gap, .directive (.literal "x")],
    .sequence [.sequence [.directive (.literal "b")]], .directive (.literal "c"), .gap,
    .sequence [.directive (.literal "y")]]

/-- A missing entry ends its own list and no other. -/
theorem walk_leaves_cutWords :
    Node.leavesAll (Node.cutAll cutWords) =
        [Directive.literal "a", .literal "b", .literal "c"].map Leaf.directive ∧
      executeNodes (fun _ w => .ok w) [] cutWords = .ok ("abc" : Text) := by
  have hleaves : Node.leavesAll (Node.cutAll cutWords) =
      [Directive.literal "a", .literal "b", .literal "c"].map Leaf.directive := rfl
  have hexecute := ((walk_leaves cutWords).2.2 (fun _ w => .ok w) []).2 _ hleaves
  exact ⟨hleaves, hexecute.trans rfl⟩

end Agreement
