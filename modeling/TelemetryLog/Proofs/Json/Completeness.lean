import TelemetryLog.Proofs.Json.Soundness

/-!
# What is in the grammar is accepted

Wherever a value may stand, the machine takes the text of one and hands the value to the container
that waits for it (`Takes`).  This goes by induction over the grammar: a container takes its parts
one by one (`run_separated`), and each part is a shorter text.  With the other direction, the
machine accepts the objects of the grammar and no other text (`readObject?_eq_some_iff`).

## How it goes

`Takes` has to say what comes behind the text, for a bare token ends only at the next character.  So
it is about the text with a character behind it that is not part of a bare token, such as a comma, a
bracket or a space.  In the text of an object there always is one, because its brace comes last.

Arrays and objects are read in the same way but for their brackets, and the machine has states of
its own for each.  `Delimits` says what the two have in common: the states in which a part may
begin, the states in which one has ended, and what the bracket does.  So there is one induction over
the parts of a container (`run_parts`), and arrays and objects are its two instances
(`delimits_array`, `delimits_object`).

Nothing is said here of texts that are not in the grammar.  That they are refused, and do not merely
lead to another value, is `Proofs.Json.Soundness` and that the machine has no choice.
-/

set_option autoImplicit false

namespace TelemetryLog
namespace Json
namespace Reader

variable {s : State} {stack : List Frame} {cs gap rest : List Char} {c d : Char} {v : Json}

/-! ## Space -/

theorem betweenTokens_of_deliver (h : deliver v stack = some s) : s.betweenTokens = true := by
  cases stack with
  | nil => cases h
  | cons f stack => cases f <;> cases h <;> rfl

theorem run_space (hs : s.betweenTokens = true) (h : IsSpace gap) (rest : List Char) :
    run s (gap ++ rest) = run s rest := by
  induction gap with
  | nil => rfl
  | cons c gap ih =>
    obtain ⟨hc, hgap⟩ := List.forall_mem_cons.1 h
    rw [List.cons_append, run_cons_of_move (.space hs (isSpace_iff.2 hc)), ih hgap]

/-! ## Tokens -/

/-- Inside quotes the machine takes characters up to the quote that ends the body. -/
theorem run_body (inside : Bool → List Char → State) {escaped escaped' : Bool} {body : List Char}
    (htrue : ∀ body c, Move (inside true body) c (inside false (c :: body)))
    (hfalse : ∀ body c, c ≠ '"' → Move (inside false body) c (inside (c = '\\') (c :: body)))
    (h : escapedAfter escaped cs = some escaped') (rest : List Char) :
    run (inside escaped body) (cs ++ rest) = run (inside escaped' (cs.reverse ++ body)) rest := by
  induction cs generalizing escaped body with
  | nil =>
    rw [escapedAfter_nil] at h
    cases h
    rfl
  | cons c cs ih =>
    rw [List.cons_append, List.reverse_cons, List.append_assoc, List.singleton_append]
    cases escaped with
    | true => rw [run_cons_of_move (htrue body c), ih h]
    | false =>
      rw [escapedAfter] at h
      split at h
      · cases h
      · rw [run_cons_of_move (hfalse body c ‹_›), ih h]

theorem run_text {x : String} (h : BodyText cs x.toList) (hs : deliver (.text x) stack = some s)
    (rest : List Char) : run (.textBody false [] stack) (cs ++ '"' :: rest) = run s rest := by
  obtain ⟨hend, hxs⟩ := bodyText_iff.1 h
  have hquote : Move (.textBody false (cs.reverse ++ []) stack) '"' s :=
    .textEnd (by simpa using hxs) (by simpa using hs)
  rw [run_body (fun escaped body => .textBody escaped body stack) (fun _ _ => .textEscaped)
    (fun _ _ hc => .textChar hc) hend, run_cons_of_move hquote]

theorem run_key {key : String} {members : List (String × Json)} (h : BodyText cs key.toList)
    (rest : List Char) :
    run (.keyBody false [] members stack) (cs ++ '"' :: rest) =
      run (.colon members key stack) rest := by
  obtain ⟨hend, hxs⟩ := bodyText_iff.1 h
  have hquote : Move (.keyBody false (cs.reverse ++ []) members stack) '"'
      (.colon members (String.ofList key.toList) stack) :=
    .keyEnd (by simpa using hxs)
  rw [String.ofList_toList] at hquote
  rw [run_body (fun escaped body => .keyBody escaped body members stack)
    (fun _ _ => .keyEscaped) (fun _ _ hc => .keyChar hc) hend, run_cons_of_move hquote]

theorem run_bare {body : List Char} (h : ∀ c ∈ cs, isBare c = true) (rest : List Char) :
    run (.bare body stack) (cs ++ rest) = run (.bare (cs.reverse ++ body) stack) rest := by
  induction cs generalizing body with
  | nil => rfl
  | cons c cs ih =>
    obtain ⟨hc, hcs⟩ := List.forall_mem_cons.1 h
    rw [List.cons_append, run_cons_of_move (.bareChar hc), ih hcs, List.reverse_cons,
      List.append_assoc, List.singleton_append]

/-! ## Values -/

/-- Wherever a value may stand, inside so many containers, the machine takes the text as the
value.  What ends a bare token is the character behind it. -/
def Takes (depth : Nat) (cs : List Char) (v : Json) : Prop :=
  ∀ (first : Bool) (stack : List Frame) (s : State) (d : Char) (rest : List Char),
    stack.length = depth → deliver v stack = some s → isBare d = false →
      run (.value first stack) (cs ++ d :: rest) = run s (d :: rest)

theorem takes_of_scalarText {depth : Nat} (h : ScalarText cs v) : Takes depth cs v := by
  intro first stack s d rest _ hs hd
  obtain ⟨hne, hbare⟩ := isBare_of_scalarText h
  obtain ⟨c, cs, rfl⟩ := List.exists_cons_of_ne_nil hne
  obtain ⟨hc, hcs⟩ := List.forall_mem_cons.1 hbare
  have hv : scalar? (cs.reverse ++ [c]).reverse = some v := by
    rw [← List.reverse_cons, List.reverse_reverse, scalar?_eq_some_iff.2 h]
  rw [List.cons_append, run_cons_of_move (.bare hc), run_bare hcs, run_cons,
    step_bare_of_deliver hd hv hs, ← run_cons]

theorem run_item {depth : Nat} {i : Item} {first : Bool} (hspaced : i.isSpaced)
    (h : Takes depth i.text i.value) (hdepth : stack.length = depth)
    (hs : deliver i.value stack = some s) (hd : isBare d = false) :
    run (.value first stack) (i.chars ++ d :: rest) = run s (d :: rest) := by
  obtain ⟨hbefore, hafter⟩ := hspaced
  -- the space behind the value may end a bare token
  obtain ⟨e, more, heq, he⟩ : ∃ e more, i.after ++ d :: rest = e :: more ∧ isBare e = false := by
    cases hcs : i.after with
    | nil => exact ⟨d, rest, rfl, hd⟩
    | cons e more =>
      rw [hcs] at hafter
      have he := isSpace_iff.2 (hafter e List.mem_cons_self)
      exact ⟨e, _, rfl, not_isBare_of_isSpace he⟩
  rw [Item.chars, List.append_assoc, List.append_assoc, run_space rfl hbefore, heq,
    h first stack s e more hdepth hs he, ← heq, run_space (betweenTokens_of_deliver hs) hafter]

theorem run_member {m : Member} {first : Bool} {members : List (String × Json)}
    (hspelled : m.isSpelled) (h : Takes (stack.length + 1) m.item.text m.item.value)
    (hd : isBare d = false) :
    run (.key first members stack) (m.chars ++ d :: rest) =
      run (.afterMember (m.entry :: members) stack) (d :: rest) := by
  obtain ⟨hbefore, hbody, hafter, hspaced⟩ := hspelled
  have hchars : m.chars ++ d :: rest = m.before ++ '"' :: (m.body ++ '"' :: (m.after ++
      ':' :: (m.item.chars ++ d :: rest))) := by
    simp [Member.chars]
  rw [hchars, run_space rfl hbefore, run_cons_of_move .key, run_key hbody, run_space rfl hafter,
    run_cons_of_move .colon]
  exact run_item hspaced h rfl rfl hd

/-! ## Containers -/

section Containers

variable {α β : Type} {before : Bool → List α → State} {after : List α → State}
  {close : List α → Option State} {bracket : Char} {chars : β → List Char} {value : β → α}

/-- How a container is read: where its parts may begin, where they have ended, and what its
bracket does. -/
structure Delimits (before : Bool → List α → State) (after : List α → State)
    (close : List α → Option State) (bracket : Char) : Prop where
  /-- The bracket is not part of a bare token. -/
  bare : isBare bracket = false
  /-- There may be space in an empty container. -/
  space : (before true []).betweenTokens = true
  /-- Behind a comma the next part may begin. -/
  comma : ∀ xs, Move (after xs) ',' (before false xs)
  /-- The bracket may stand behind the last part. -/
  last : ∀ xs, step (after xs) bracket = close xs
  /-- The bracket may stand where there is no part. -/
  empty : step (before true []) bracket = close []

/-- Wherever a part may begin, the machine takes it. -/
def TakesPart (before : Bool → List α → State) (after : List α → State) (cs : List Char) (x : α) :
    Prop :=
  ∀ (first : Bool) (xs : List α) (d : Char) (rest : List Char), isBare d = false →
    run (before first xs) (cs ++ d :: rest) = run (after (x :: xs)) (d :: rest)

theorem run_parts (hcontainer : Delimits before after close bracket) {front : List β} {last : β}
    {first : Bool} {xs : List α}
    (hparts : ∀ b ∈ front ++ [last], TakesPart before after (chars b) (value b)) :
    run (before first xs)
        ((front.map chars).flatMap (· ++ [',']) ++ (chars last ++ bracket :: rest)) =
      (close (((front ++ [last]).map value).reverse ++ xs)).bind fun s => run s rest := by
  induction front generalizing first xs with
  | nil =>
    have hlast := hparts last (by simp) first xs bracket rest hcontainer.bare
    rw [List.map_nil, List.flatMap_nil, List.nil_append, hlast, run_cons, hcontainer.last]
    rfl
  | cons b front ih =>
    obtain ⟨hb, hfront⟩ := List.forall_mem_cons.1 hparts
    rw [List.map_cons, List.flatMap_cons, List.append_assoc, List.append_assoc,
      List.singleton_append, hb first xs ',' _ (by decide), run_cons_of_move (hcontainer.comma _),
      ih hfront]
    simp

/-- **A container takes its parts** and hands what they mean to what its bracket does. -/
theorem run_separated (hcontainer : Delimits before after close bracket) {parts : List β}
    (hparts : ∀ b ∈ parts, TakesPart before after (chars b) (value b))
    (h : Separated (parts.map chars) cs) :
    run (before true []) (cs ++ bracket :: rest) =
      (close (parts.map value).reverse).bind fun s => run s rest := by
  generalize htexts : parts.map chars = texts at h
  cases h with
  | none hspace =>
    obtain rfl := List.map_eq_nil_iff.1 htexts
    rw [run_space hcontainer.space hspace, run_cons, hcontainer.empty]
    rfl
  | some front last =>
    obtain ⟨parts, lasts, rfl, rfl, hlast⟩ := List.map_eq_append_iff.1 htexts
    obtain ⟨b, rfl, rfl⟩ := List.map_eq_singleton_iff.1 hlast
    rw [List.append_assoc, run_parts hcontainer hparts, List.append_nil]

end Containers

theorem delimits_array (stack : List Frame) :
    Delimits (fun first items => .value first (.array items :: stack))
      (fun items => .afterItem items stack) (fun items => closeArray items stack) ']' :=
  ⟨by decide, rfl, fun _ => .nextItem, fun _ => rfl, rfl⟩

theorem delimits_object (stack : List Frame) :
    Delimits (fun first members => .key first members stack)
      (fun members => .afterMember members stack) (fun members => closeObject members stack)
      '\x7d' :=
  ⟨by decide, rfl, fun _ => .nextMember, fun _ => rfl, rfl⟩

theorem run_members {members : List Member} (hspelled : ∀ m ∈ members, m.isSpelled)
    (htakes : ∀ m ∈ members, Takes (stack.length + 1) m.item.text m.item.value)
    (h : Separated (members.map Member.chars) cs) :
    run (.key true [] stack) (cs ++ '\x7d' :: rest) =
      (closeObject (members.map Member.entry).reverse stack).bind fun s => run s rest :=
  run_separated (delimits_object stack)
    (fun m hm _ _ _ _ hd => run_member (hspelled m hm) (htakes m hm) hd) h

theorem run_items {items : List Item} (hspaced : ∀ i ∈ items, i.isSpaced)
    (htakes : ∀ i ∈ items, Takes (stack.length + 1) i.text i.value)
    (h : Separated (items.map Item.chars) cs) :
    run (.value true (.array [] :: stack)) (cs ++ ']' :: rest) =
      (closeArray (items.map Item.value).reverse stack).bind fun s => run s rest :=
  run_separated (delimits_array stack)
    (fun i hi _ _ _ _ hd => run_item (hspaced i hi) (htakes i hi) rfl rfl hd) h

theorem closeObject_of_stands {sent : List (String × Json)} (hv : Stands sent v)
    (hs : deliver v stack = some s) : closeObject sent.reverse stack = some s := by
  cases stack with
  | nil => cases hs
  | cons f stack =>
    rw [closeObject, List.reverse_reverse, nested?_of_stands hv]
    exact hs

/-- **Every value of the grammar is taken.** -/
theorem takes_of_valueText {depth : Nat} (h : ValueText depth cs v) : Takes depth cs v := by
  induction h with
  | scalar h => exact takes_of_scalarText h
  | text h =>
    intro first stack s d rest _ hs _
    rw [List.cons_append, run_cons_of_move .text, List.append_assoc, List.singleton_append,
      run_text h hs]
  | array hdepth hspaced _ hcs ih =>
    rintro first stack s d rest rfl hs _
    rw [List.cons_append, run_cons_of_move (.array hdepth), List.append_assoc,
      List.singleton_append, run_items hspaced ih hcs, closeArray, List.reverse_reverse, hs,
      Option.bind_some]
  | object hdepth hspelled _ hcs hv ih =>
    rintro first stack s d rest rfl hs _
    rw [List.cons_append, run_cons_of_move (.object hdepth), List.append_assoc,
      List.singleton_append, run_members hspelled ih hcs, closeObject_of_stands hv hs,
      Option.bind_some]

end Reader

/-! ## Objects -/

variable {cs gap : List Char} {kept : List (String × Json)}

/-- **Every object of the grammar is accepted**, also with space behind it. -/
theorem readObject?_of_objectText (h : ObjectText cs kept) (hgap : IsSpace gap) :
    readObject? (cs ++ gap) = some kept := by
  cases h with
  | @mk cs members _ hspelled hitems hcs hkept =>
    have hmembers : Reader.run (.key true [] []) (cs ++ '\x7d' :: gap) =
        Reader.run (.done (members.map Member.entry).reverse) gap :=
      Reader.run_members hspelled (fun m hm => Reader.takes_of_valueText (hitems m hm)) hcs
    have hrun : Reader.run .start ('\x7b' :: (cs ++ ['\x7d']) ++ gap) =
        some (.done (members.map Member.entry).reverse) := by
      rw [List.cons_append, List.append_assoc, List.singleton_append,
        Reader.run_cons_of_move .start, hmembers]
      simpa using Reader.run_space (s := .done (members.map Member.entry).reverse) rfl hgap []
    rw [readObject?, hrun]
    dsimp only
    rw [List.reverse_reverse, keeps_iff.1 hkept]

/-- **The machine accepts the objects of the grammar and no other text.** -/
theorem readObject?_eq_some_iff :
    readObject? cs = some kept ↔
      ∃ object gap, cs = object ++ gap ∧ ObjectText object kept ∧ IsSpace gap := by
  constructor
  · exact objectText_of_readObject?
  · rintro ⟨object, gap, rfl, hobject, hgap⟩
    exact readObject?_of_objectText hobject hgap

end Json
end TelemetryLog
