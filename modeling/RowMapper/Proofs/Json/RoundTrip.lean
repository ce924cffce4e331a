import Mathlib.Logic.Basic
import RowMapper.Json.Printer
import RowMapper.Json.Reader
import RowMapper.Proofs.Json.Token

/-!
# `RowMapper.Proofs.Json.RoundTrip`: documents are read back from their texts

The text of a document is read in two steps, and each has an induction over the document. Its tokens
are read back, as no number stands before a text that continues it (`reads_tokens`). From these the
document is built up again on the stack, unless more arrays and objects are open than the reader
holds (`run_tokens`).

* `read?_text`: a document with integers for numbers is read back from its text if its `depth` is
  within the limit, and nothing is read otherwise.
-/

set_option autoImplicit false

namespace RowMapper.Json

/-! ### Documents -/

mutual

/-- The number of arrays and objects that stand inside one another. -/
def depth : Json → Nat
  | .array items => itemsDepth items + 1
  | .object members => membersDepth members + 1
  | _ => 0

def itemsDepth : List Json → Nat
  | [] => 0
  | item :: rest => max (depth item) (itemsDepth rest)

def membersDepth : List (String × Json) → Nat
  | [] => 0
  | (_, value) :: rest => max (depth value) (membersDepth rest)

end

mutual

/-- All numbers of the document are integers. -/
def Integral : Json → Prop
  | .number n => n.IsInteger
  | .array items => IntegralItems items
  | .object members => IntegralMembers members
  | _ => True

def IntegralItems : List Json → Prop
  | [] => True
  | item :: rest => Integral item ∧ IntegralItems rest

def IntegralMembers : List (String × Json) → Prop
  | [] => True
  | (_, value) :: rest => Integral value ∧ IntegralMembers rest

end

/-! ### Tokens -/

/-- The text of these tokens, with the other text behind it, is read as them. -/
def Reads (tokens : List Token) (rest : List Char) : Prop :=
  tokens? (tokens.flatMap Token.chars ++ rest) = (tokens? rest).map (tokens ++ ·)

namespace Reads

variable {token : Token} {front back : List Token} {rest : List Char}

theorem nil (rest : List Char) : Reads [] rest := by
  rw [Reads]
  simp

theorem cons (hstands : token.StandsBefore (back.flatMap Token.chars ++ rest))
    (hback : Reads back rest) : Reads (token :: back) rest := by
  rw [Reads, List.flatMap_cons, List.append_assoc, tokens?_chars hstands, hback, Option.map_map]
  rfl

theorem append (hfront : Reads front (back.flatMap Token.chars ++ rest))
    (hback : Reads back rest) : Reads (front ++ back) rest := by
  rw [Reads, List.flatMap_append, List.append_assoc, hfront, hback, Option.map_map]
  simp only [Function.comp_def, List.append_assoc]

end Reads

mutual

/-- The tokens of a document are read back from its text. -/
theorem reads_tokens : ∀ (json : Json) (rest : List Char), json.Integral → EndsNumber rest →
    Reads json.tokens rest
  | .null, rest, _, _ | .bool _, rest, _, _ | .string _, rest, _, _ => by
      rw [tokens]
      exact .cons trivial (.nil rest)
  | .number n, rest, hintegral, hrest => by
      rw [tokens]
      rw [Integral] at hintegral
      exact .cons ⟨hintegral, hrest⟩ (.nil rest)
  | .array items, rest, hintegral, _ => by
      rw [tokens]
      rw [Integral] at hintegral
      refine .cons trivial (.append ?_ (.cons trivial (.nil rest)))
      exact reads_itemTokens items _ hintegral (endsNumber_cons (by decide) _)
  | .object members, rest, hintegral, _ => by
      rw [tokens]
      rw [Integral] at hintegral
      refine .cons trivial (.append ?_ (.cons trivial (.nil rest)))
      exact reads_memberTokens members _ hintegral (endsNumber_cons (by decide) _)

theorem reads_itemTokens : ∀ (items : List Json) (rest : List Char), IntegralItems items →
    EndsNumber rest → Reads (itemTokens items) rest
  | [], rest, _, _ => by
      rw [itemTokens]
      exact .nil rest
  | [item], rest, hintegral, hrest => by
      rw [itemTokens]
      rw [IntegralItems] at hintegral
      exact reads_tokens item rest hintegral.1 hrest
  | item :: next :: more, rest, hintegral, hrest => by
      rw [itemTokens]
      rw [IntegralItems] at hintegral
      have hmore := reads_itemTokens (next :: more) rest hintegral.2 hrest
      refine .append ?_ (.cons trivial hmore)
      exact reads_tokens item _ hintegral.1 (endsNumber_cons (by decide) _)

theorem reads_memberTokens : ∀ (members : List (String × Json)) (rest : List Char),
    IntegralMembers members → EndsNumber rest → Reads (memberTokens members) rest
  | [], rest, _, _ => by
      rw [memberTokens]
      exact .nil rest
  | [(name, value)], rest, hintegral, hrest => by
      rw [memberTokens]
      rw [IntegralMembers] at hintegral
      exact .cons trivial (.cons trivial (reads_tokens value rest hintegral.1 hrest))
  | (name, value) :: next :: more, rest, hintegral, hrest => by
      rw [memberTokens]
      rw [IntegralMembers] at hintegral
      have hmore := reads_memberTokens (next :: more) rest hintegral.2 hrest
      refine .cons trivial (.cons trivial (.append ?_ (.cons trivial hmore)))
      exact reads_tokens value _ hintegral.1 (endsNumber_cons (by decide) _)

end

/-! ### Building up -/

namespace Reading

theorem run_cons (state : Reading) (token : Token) (tokens : List Token) :
    state.run (token :: tokens) = (state.step token).bind (·.run tokens) := by
  rw [run, List.foldlM_cons]
  rfl

/-- Some tokens behind a step. -/
theorem run_of_step {state next : Reading} {token : Token} (h : state.step token = some next)
    (tokens : List Token) : state.run (token :: tokens) = next.run tokens := by
  rw [run_cons, h, Option.bind_some]

end Reading

theorem exists_cons_tokens (json : Json) :
    ∃ token rest, json.tokens = token :: rest ∧ token ≠ .closeArray := by
  cases json <;> rw [tokens] <;> exact ⟨_, _, rfl, by simp⟩

theorem exists_cons_itemTokens (item : Json) (more : List Json) :
    ∃ token rest, itemTokens (item :: more) = token :: rest ∧ token ≠ .closeArray := by
  obtain ⟨token, rest, hcons, hne⟩ := exists_cons_tokens item
  cases more with
  | nil => exact ⟨token, rest, by rw [itemTokens, hcons], hne⟩
  | cons next more => exact ⟨token, _, by rw [itemTokens, hcons, List.cons_append], hne⟩

/-- The items of an array just opened are those of an array without items so far. -/
theorem Reading.run_firstItem (stack : List Frame) (item : Json) (more : List Json)
    (rest : List Token) :
    (firstItem stack).run (itemTokens (item :: more) ++ rest)
      = (value (.array [] :: stack)).run (itemTokens (item :: more) ++ rest) := by
  obtain ⟨token, others, hcons, hne⟩ := exists_cons_itemTokens item more
  rw [hcons, List.cons_append, run_cons, run_cons]
  cases token with
  | closeArray => exact absurd rfl hne
  | _ => rfl

/-- A member with a name above all others comes behind them. -/
theorem insertMember_of_lt {name : String} (value : Json) {held : List (String × Json)}
    (h : ∀ member ∈ held, member.1 < name) :
    insertMember name value held = held ++ [(name, value)] := by
  induction held with
  | nil => rfl
  | cons member rest ih =>
      obtain ⟨hfirst, hrest⟩ := List.forall_mem_cons.1 h
      have hnot : ¬ name < member.1 := fun hbefore =>
        String.lt_irrefl _ (String.lt_trans hbefore hfirst)
      have hne : name ≠ member.1 := by
        rintro rfl
        exact String.lt_irrefl _ hfirst
      rw [insertMember, if_neg hnot, if_neg hne, ih hrest, List.cons_append]

/-- A member behind members with smaller names goes to the end. -/
theorem insertMember_of_pairwise {name : String} {value : Json} {held : List (String × Json)}
    (h : (held ++ [(name, value)]).Pairwise (fun a b => a.1 < b.1)) :
    insertMember name value held = held ++ [(name, value)] :=
  insertMember_of_lt value fun member hmember =>
    (List.pairwise_append.1 h).2.2 member hmember _ (List.mem_singleton_self _)

/-- The state behind a name is the same for the first member of an object and for further ones. -/
theorem Reading.run_firstName (stack : List Frame) (member : String × Json)
    (more : List (String × Json)) (rest : List Token) :
    (firstName stack).run (memberTokens (member :: more) ++ rest)
      = (memberName [] stack).run (memberTokens (member :: more) ++ rest) := by
  cases more <;> rw [memberTokens] <;> rfl

namespace Reading

/-- An array is opened unless the stack is full. -/
theorem run_openArray (stack : List Frame) (tokens : List Token) :
    (value stack).run (.openArray :: tokens)
      = if stack.length < maxDepth then (firstItem stack).run tokens else none := by
  rw [run_cons, step, openValue]
  split_ifs <;> rfl

/-- An object is opened unless the stack is full. -/
theorem run_openObject (stack : List Frame) (tokens : List Token) :
    (value stack).run (.openObject :: tokens)
      = if stack.length < maxDepth then (firstName stack).run tokens else none := by
  rw [run_cons, step, openValue]
  split_ifs <;> rfl

/-- Behind a name and its colon comes the value of the member. -/
theorem run_member (held : List (String × Json)) (name : String) (stack : List Frame)
    (tokens : List Token) :
    (memberName held stack).run (.string name :: .colon :: tokens)
      = (value (.object held name :: stack)).run tokens := rfl

end Reading

/-- Both a first part and the others fit onto the stack if the deepest of them does. -/
theorem fits_max {length first others : Nat} :
    length + 1 + first ≤ maxDepth ∧ length + (others + 1) ≤ maxDepth ↔
      length + (max first others + 1) ≤ maxDepth := by
  omega

mutual

/-- From the tokens of a document the document is built up, unless it is too deep for the stack. -/
theorem run_tokens : ∀ (json : Json) (stack : List Frame) (rest : List Token), json.Ordered →
    stack.length ≤ maxDepth →
    (Reading.value stack).run (json.tokens ++ rest)
      = if stack.length + json.depth ≤ maxDepth then (Reading.close json stack).run rest else none
  | .null, stack, rest, _, hstack | .bool _, stack, rest, _, hstack
  | .number _, stack, rest, _, hstack | .string _, stack, rest, _, hstack => by
      rw [if_pos (by simpa only [depth, Nat.add_zero] using hstack), tokens]
      rfl
  | .array [], stack, rest, _, _ => by
      rw [tokens, itemTokens, depth, itemsDepth, List.nil_append, List.cons_append]
      by_cases hroom : stack.length < maxDepth
      · rw [Reading.run_openArray, if_pos hroom, if_pos (by omega)]
        rfl
      · rw [Reading.run_openArray, if_neg hroom, if_neg (by omega)]
  | .array (item :: more), stack, rest, hordered, _ => by
      rw [Ordered] at hordered
      rw [tokens, depth, List.cons_append, List.append_assoc, List.singleton_append]
      by_cases hroom : stack.length < maxDepth
      · rw [Reading.run_openArray, if_pos hroom, Reading.run_firstItem]
        exact run_itemTokens (item :: more) [] stack rest (List.cons_ne_nil _ _) hordered hroom
      · rw [Reading.run_openArray, if_neg hroom, if_neg (by omega)]
  | .object [], stack, rest, _, _ => by
      rw [tokens, memberTokens, depth, membersDepth, List.nil_append, List.cons_append]
      by_cases hroom : stack.length < maxDepth
      · rw [Reading.run_openObject, if_pos hroom, if_pos (by omega)]
        rfl
      · rw [Reading.run_openObject, if_neg hroom, if_neg (by omega)]
  | .object (member :: more), stack, rest, hordered, _ => by
      rw [Ordered] at hordered
      rw [tokens, depth, List.cons_append, List.append_assoc, List.singleton_append]
      by_cases hroom : stack.length < maxDepth
      · rw [Reading.run_openObject, if_pos hroom, Reading.run_firstName]
        exact run_memberTokens (member :: more) [] stack rest (List.cons_ne_nil _ _) hordered.1
          hordered.2 hroom
      · rw [Reading.run_openObject, if_neg hroom, if_neg (by omega)]

/-- Items behind the items so far, which are held the last one first. -/
theorem run_itemTokens : ∀ (items held : List Json) (stack : List Frame) (rest : List Token),
    items ≠ [] → OrderedItems items → stack.length < maxDepth →
    (Reading.value (.array held :: stack)).run (itemTokens items ++ .closeArray :: rest)
      = if stack.length + (itemsDepth items + 1) ≤ maxDepth
        then (Reading.close (.array (held.reverse ++ items)) stack).run rest else none
  | [], _, _, _, hne, _, _ => absurd rfl hne
  | [item], held, stack, rest, _, hordered, hroom => by
      rw [OrderedItems] at hordered
      have hitem := run_tokens item (.array held :: stack) (.closeArray :: rest) hordered.1 hroom
      have hclose : (Reading.close item (.array held :: stack)).run (.closeArray :: rest)
          = (Reading.close (.array (held.reverse ++ [item])) stack).run rest := by
        rw [← List.reverse_cons]
        rfl
      rw [itemTokens, hitem, hclose]
      refine if_congr ?_ rfl rfl
      rw [List.length_cons, itemsDepth, itemsDepth]
      omega
  | item :: next :: more, held, stack, rest, _, hordered, hroom => by
      rw [OrderedItems] at hordered
      have hitem := run_tokens item (.array held :: stack)
        (.comma :: (itemTokens (next :: more) ++ .closeArray :: rest)) hordered.1 hroom
      have hcomma : (Reading.close item (.array held :: stack)).step .comma
          = some (.value (.array (item :: held) :: stack)) := rfl
      have hmore := run_itemTokens (next :: more) (item :: held) stack rest (List.cons_ne_nil _ _)
        hordered.2 hroom
      rw [itemTokens, List.append_assoc, List.cons_append, hitem, Reading.run_of_step hcomma, hmore,
        List.reverse_cons, List.append_assoc, List.singleton_append, ← ite_and]
      exact if_congr fits_max rfl rfl

/-- Members behind the members so far, whose names come before theirs. -/
theorem run_memberTokens : ∀ (members held : List (String × Json)) (stack : List Frame)
    (rest : List Token), members ≠ [] → (held ++ members).Pairwise (fun a b => a.1 < b.1) →
    OrderedMembers members → stack.length < maxDepth →
    (Reading.memberName held stack).run (memberTokens members ++ .closeObject :: rest)
      = if stack.length + (membersDepth members + 1) ≤ maxDepth
        then (Reading.close (.object (held ++ members)) stack).run rest else none
  | [], _, _, _, hne, _, _, _ => absurd rfl hne
  | [(name, value)], held, stack, rest, _, hnames, hordered, hroom => by
      rw [OrderedMembers] at hordered
      have hvalue := run_tokens value (.object held name :: stack) (.closeObject :: rest)
        hordered.1 hroom
      have hclose : (Reading.close value (.object held name :: stack)).run (.closeObject :: rest)
          = (Reading.close (.object (held ++ [(name, value)])) stack).run rest := by
        rw [← insertMember_of_pairwise hnames]
        rfl
      rw [memberTokens, List.cons_append, List.cons_append, Reading.run_member, hvalue, hclose]
      refine if_congr ?_ rfl rfl
      rw [List.length_cons, membersDepth, membersDepth]
      omega
  | (name, value) :: next :: more, held, stack, rest, _, hnames, hordered, hroom => by
      rw [OrderedMembers] at hordered
      have hvalue := run_tokens value (.object held name :: stack)
        (.comma :: (memberTokens (next :: more) ++ .closeObject :: rest)) hordered.1 hroom
      have hcomma : (Reading.close value (.object held name :: stack)).step .comma
          = some (.memberName (insertMember name value held) stack) := rfl
      rw [List.append_cons] at hnames
      have hmore := run_memberTokens (next :: more) (held ++ [(name, value)]) stack rest
        (List.cons_ne_nil _ _) hnames hordered.2 hroom
      rw [memberTokens, List.cons_append, List.cons_append, List.append_assoc, List.cons_append,
        Reading.run_member, hvalue, Reading.run_of_step hcomma,
        insertMember_of_pairwise (hnames.sublist (List.sublist_append_left _ _)), hmore,
        ← List.append_cons, ← ite_and]
      exact if_congr fits_max rfl rfl

end

/-- A document with integers for numbers is read back from its text, unless it is too deep. -/
theorem read?_text {document : Json} (hordered : document.Ordered)
    (hintegral : document.Integral) :
    read? document.text = if document.depth ≤ maxDepth then some document else none := by
  have htokens : tokens? document.text.toList = some document.tokens := by
    have hreads := reads_tokens document [] hintegral endsNumber_nil
    have hnil : tokens? [] = some [] := by
      rw [tokens?]
      rfl
    rw [Reads, List.append_nil, hnil, Option.map_some, List.append_nil] at hreads
    rw [text, String.toList_ofList, hreads]
  have hrun := run_tokens document [] [] hordered (Nat.zero_le _)
  rw [List.append_nil, List.length_nil, Nat.zero_add] at hrun
  rw [read?, htokens, Option.bind_some, ofTokens?, hrun]
  split_ifs <;> rfl

end RowMapper.Json
