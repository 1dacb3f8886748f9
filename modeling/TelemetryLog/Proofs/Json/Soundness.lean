import TelemetryLog.Proofs.Json.Members
import TelemetryLog.Proofs.Json.Moves
import TelemetryLog.Proofs.Json.Texts

/-!
# What the machine accepts is in the grammar

The text that has led to a state is the state's frames written out: each open container is its
bracket and its parts so far, and inside the last one stands the token that is in progress.
`Waits` says this of the frames, with the text up to where the next value may begin, and `Reads` of
a whole state.  A character keeps it (`Reads.move`), so a text that leads to the end is an object
and space behind it (`Reads.run`, `objectText_of_readObject?`).

## How it goes

The grammar speaks of a container as a whole, and the machine meets it from the left.  So there are
two ways to say what has been read of one:

* `Listed` — parts with a comma behind each, which is all there is before the next part;
* `Filled` — parts with commas between them, or only space, which is all there is between two
  brackets, and is what the grammar wants (`Filled.exists_parts`).

Both list what the parts mean with the latest first, as the machine keeps it.

A space is the awkward character: it may stand anywhere between tokens, and belongs to what stands
before it.  That it does is one lemma for each kind of part (`ItemText.concat`, `MemberText.concat`,
`KeyText.concat`, `Waits.concat`) and one for the state (`Reads.space`).

The other moves fall into a few kinds, with lemmas for each: a container begins, a container ends,
something goes on behind a comma or a colon, and a token begins, goes on or ends.  `Reads.move` only
sorts the moves by kind.  The token that is in progress is not judged while it is; when it ends,
`bodyText_ofList` and `scalar?_eq_some_iff` say what it was.
-/

set_option autoImplicit false

namespace TelemetryLog
namespace Json

/-! ## Parts of a container -/

/-- The text is an item of an array, with the space around it. -/
def ItemText (depth : Nat) (cs : List Char) (v : Json) : Prop :=
  ∃ i : Item, (i.isSpaced ∧ ValueText depth i.text i.value) ∧ i.chars = cs ∧ i.value = v

/-- The text is a member of an object, with the space around it. -/
def MemberText (depth : Nat) (cs : List Char) (entry : String × Json) : Prop :=
  ∃ m : Member, (m.isSpelled ∧ ValueText depth m.item.text m.item.value) ∧ m.chars = cs ∧
    m.entry = entry

/-- The text is a key between its quotes, with the space around it. -/
inductive KeyText (key : String) : List Char → Prop
  /-- The space, the quotes and what is between them. -/
  | mk {before body after : List Char} (hbefore : IsSpace before) (hbody : BodyText body key.toList)
      (hafter : IsSpace after) : KeyText key (before ++ '"' :: (body ++ '"' :: after))

section Parts

variable {α β : Type} {P : List Char → α → Prop} {xs : List α} {x : α} {cs part : List Char}

/-- Parts with a comma behind each, and what they mean, the latest first. -/
inductive Listed (P : List Char → α → Prop) : List α → List Char → Prop
  /-- No part. -/
  | nil : Listed P [] []
  /-- One part more. -/
  | snoc {xs : List α} {x : α} {cs part : List Char} (h : Listed P xs cs) (hx : P part x) :
      Listed P (x :: xs) (cs ++ (part ++ [',']))

/-- All that stands between two brackets, and what the parts mean, the latest first. -/
inductive Filled (P : List Char → α → Prop) : List α → List Char → Prop
  /-- No part. -/
  | none {gap : List Char} (h : IsSpace gap) : Filled P [] gap
  /-- The last part has no comma behind it. -/
  | some {xs : List α} {x : α} {cs part : List Char} (h : Listed P xs cs) (hx : P part x) :
      Filled P (x :: xs) (cs ++ part)

theorem Listed.eq_nil (h : Listed P [] cs) : cs = [] := by
  cases h
  rfl

variable {good : β → Prop} {chars : β → List Char} {value : β → α}

theorem Listed.exists_parts
    (h : Listed (fun cs x => ∃ b, good b ∧ chars b = cs ∧ value b = x) xs cs) :
    ∃ parts : List β, (∀ b ∈ parts, good b) ∧ parts.map value = xs.reverse ∧
      cs = (parts.map chars).flatMap (· ++ [',']) := by
  induction h with
  | nil => exact ⟨[], by simp⟩
  | snoc _ hx ih =>
    obtain ⟨parts, hgood, hvalue, rfl⟩ := ih
    obtain ⟨b, hb, rfl, rfl⟩ := hx
    refine ⟨parts ++ [b], ?_, by simp [hvalue], by simp⟩
    simpa [or_imp, forall_and] using ⟨hgood, hb⟩

theorem Filled.exists_parts
    (h : Filled (fun cs x => ∃ b, good b ∧ chars b = cs ∧ value b = x) xs cs) :
    ∃ parts : List β, (∀ b ∈ parts, good b) ∧ parts.map value = xs.reverse ∧
      Separated (parts.map chars) cs := by
  cases h with
  | none h => exact ⟨[], by simp, rfl, .none h⟩
  | some h hx =>
    obtain ⟨parts, hgood, hvalue, rfl⟩ := h.exists_parts
    obtain ⟨b, hb, rfl, rfl⟩ := hx
    refine ⟨parts ++ [b], ?_, by simp [hvalue], ?_⟩
    · simpa [or_imp, forall_and] using ⟨hgood, hb⟩
    · rw [List.map_append]
      exact .some _ _

end Parts

variable {depth : Nat} {cs part inner : List Char} {v : Json} {c : Char}

/-! ### Space behind a part -/

theorem ItemText.concat (h : ItemText depth part v) (hc : isSpace c = true) :
    ItemText depth (part ++ [c]) v := by
  obtain ⟨i, ⟨⟨hbefore, hafter⟩, htext⟩, rfl, rfl⟩ := h
  exact ⟨{ i with after := i.after ++ [c] }, ⟨⟨hbefore, hafter.concat hc⟩, htext⟩,
    by simp [Item.chars], rfl⟩

theorem MemberText.concat {entry : String × Json} (h : MemberText depth part entry)
    (hc : isSpace c = true) : MemberText depth (part ++ [c]) entry := by
  obtain ⟨m, ⟨⟨hbefore, hbody, hafter, hspaced⟩, htext⟩, rfl, rfl⟩ := h
  exact ⟨{ m with item := { m.item with after := m.item.after ++ [c] } },
    ⟨⟨hbefore, hbody, hafter, hspaced.1, hspaced.2.concat hc⟩, htext⟩,
    by simp [Member.chars, Item.chars], rfl⟩

theorem KeyText.concat {key : String} (h : KeyText key cs) (hc : isSpace c = true) :
    KeyText key (cs ++ [c]) := by
  obtain ⟨hbefore, hbody, hafter⟩ := h
  simpa using KeyText.mk hbefore hbody (hafter.concat hc)

/-! ### Whole containers -/

theorem valueText_of_filled {items : List Json} (hdepth : depth < 127)
    (h : Filled (ItemText (depth + 1)) items inner) :
    ValueText depth ('[' :: (inner ++ [']'])) (.array items.reverse) := by
  obtain ⟨parts, hgood, hvalue, hparts⟩ := Filled.exists_parts h
  rw [← hvalue]
  exact .array hdepth (fun i hi => (hgood i hi).1) (fun i hi => (hgood i hi).2) hparts

theorem valueText_of_stands {members : List (String × Json)} (hdepth : depth < 127)
    (h : Filled (MemberText (depth + 1)) members inner) (hv : Stands members.reverse v) :
    ValueText depth ('\x7b' :: (inner ++ ['\x7d'])) v := by
  obtain ⟨parts, hgood, hvalue, hparts⟩ := Filled.exists_parts h
  rw [← hvalue] at hv
  exact .object hdepth (fun m hm => (hgood m hm).1) (fun m hm => (hgood m hm).2) hparts hv

theorem objectText_of_filled {members : List (String × Json)}
    (h : Filled (MemberText 1) members inner) :
    ObjectText ('\x7b' :: (inner ++ ['\x7d'])) (collect members.reverse) := by
  obtain ⟨parts, hgood, hvalue, hparts⟩ := Filled.exists_parts h
  rw [← hvalue]
  exact .mk (fun m hm => (hgood m hm).1) (fun m hm => (hgood m hm).2) hparts (keeps_collect _)

namespace Reader

/-! ## What has been read -/

/-- A container that is open: the text before it, its bracket and its parts so far with a comma
behind each. -/
inductive Opens {α : Type} (bracket : Char) (P : Nat → List Char → α → Prop)
    (outer : List Char → Prop) (depth : Nat) (xs : List α) : List Char → Prop
  /-- There is room for it. -/
  | mk {pre inner : List Char} (houter : outer pre) (hdepth : depth < 127)
      (hparts : Listed (P (depth + 1)) xs inner) :
      Opens bracket P outer depth xs (pre ++ bracket :: inner)

/-- The text that has led to these frames, up to where a value of the innermost container may
begin. -/
def Waits : List Frame → List Char → Prop
  | [], cs => cs = []
  | .array items :: stack, cs =>
    ∃ front gap, Opens '[' ItemText (Waits stack) stack.length items front ∧ IsSpace gap ∧
      cs = front ++ gap
  | .member members key :: stack, cs =>
    ∃ front keyText gap, Opens '\x7b' MemberText (Waits stack) stack.length members front ∧
      KeyText key keyText ∧ IsSpace gap ∧ cs = front ++ (keyText ++ ':' :: gap)

/-- An array is open inside these frames. -/
abbrev OpensArray (stack : List Frame) (items : List Json) (cs : List Char) : Prop :=
  Opens '[' ItemText (Waits stack) stack.length items cs

/-- An object is open inside these frames. -/
abbrev OpensObject (stack : List Frame) (members : List (String × Json)) (cs : List Char) : Prop :=
  Opens '\x7b' MemberText (Waits stack) stack.length members cs

/-- The text that has led to this state. -/
inductive Reads : State → List Char → Prop
  /-- None. -/
  | start : Reads .start []
  /-- Before a value; a bracket can close the array only if it has no item. -/
  | value {first : Bool} {stack : List Frame} {cs : List Char} (hstack : Waits stack cs)
      (hne : stack ≠ []) (hfirst : first = true → ∃ outer, stack = .array [] :: outer) :
      Reads (.value first stack) cs
  /-- Before a key; a brace can close the object only if it has no member. -/
  | key {first : Bool} {members : List (String × Json)} {stack : List Frame} {front gap : List Char}
      (hopen : OpensObject stack members front) (hgap : IsSpace gap)
      (hfirst : first = true → members = []) : Reads (.key first members stack) (front ++ gap)
  /-- Inside a key. -/
  | keyBody {escaped : Bool} {body : List Char} {members : List (String × Json)}
      {stack : List Frame} {front gap : List Char} (hopen : OpensObject stack members front)
      (hgap : IsSpace gap) (hbody : escapedAfter false body.reverse = some escaped) :
      Reads (.keyBody escaped body members stack) (front ++ (gap ++ '"' :: body.reverse))
  /-- Behind a key. -/
  | colon {members : List (String × Json)} {key : String} {stack : List Frame}
      {front keyText : List Char} (hopen : OpensObject stack members front)
      (hkey : KeyText key keyText) : Reads (.colon members key stack) (front ++ keyText)
  /-- Inside a text. -/
  | textBody {escaped : Bool} {body : List Char} {stack : List Frame} {pre : List Char}
      (hstack : Waits stack pre) (hbody : escapedAfter false body.reverse = some escaped) :
      Reads (.textBody escaped body stack) (pre ++ '"' :: body.reverse)
  /-- Inside a bare token. -/
  | bare {body : List Char} {stack : List Frame} {pre : List Char} (hstack : Waits stack pre) :
      Reads (.bare body stack) (pre ++ body.reverse)
  /-- Behind an item. -/
  | afterItem {items : List Json} {v : Json} {stack : List Frame} {front part : List Char}
      (hopen : OpensArray stack items front) (hitem : ItemText (stack.length + 1) part v) :
      Reads (.afterItem (v :: items) stack) (front ++ part)
  /-- Behind a member. -/
  | afterMember {members : List (String × Json)} {entry : String × Json} {stack : List Frame}
      {front part : List Char} (hopen : OpensObject stack members front)
      (hmember : MemberText (stack.length + 1) part entry) :
      Reads (.afterMember (entry :: members) stack) (front ++ part)
  /-- Behind the outermost object. -/
  | done {members : List (String × Json)} {object gap : List Char}
      (hobject : ObjectText object (collect members.reverse)) (hgap : IsSpace gap) :
      Reads (.done members) (object ++ gap)

variable {s s' : State} {stack : List Frame} {pre : List Char}

/-! ## Opening and closing -/

theorem Opens.comma {α : Type} {bracket : Char} {P : Nat → List Char → α → Prop}
    {outer : List Char → Prop} {xs : List α} {x : α}
    (h : Opens bracket P outer depth xs cs) (hx : P (depth + 1) part x) :
    Opens bracket P outer depth (x :: xs) (cs ++ (part ++ [','])) := by
  obtain ⟨houter, hdepth, hparts⟩ := h
  have hopen : Opens bracket P outer depth _ _ := .mk houter hdepth (hparts.snoc hx)
  simpa using hopen

theorem Waits.opens {α : Type} {bracket : Char} {P : Nat → List Char → α → Prop}
    (h : Waits stack pre) (hdepth : stack.length < 127) :
    Opens bracket P (Waits stack) stack.length [] (pre ++ [bracket]) :=
  .mk h hdepth .nil

/-- A value goes to the container that waits for it. -/
theorem reads_deliver (h : Waits stack pre) (hv : ValueText stack.length cs v)
    (hs : deliver v stack = some s) : Reads s (pre ++ cs) := by
  cases stack with
  | nil => cases hs
  | cons f stack =>
    cases f with
    | array items =>
      obtain ⟨front, gap, hopen, hgap, rfl⟩ := h
      cases hs
      have hitem : ItemText (stack.length + 1) (gap ++ cs) v :=
        ⟨⟨gap, cs, [], v⟩, ⟨⟨hgap, isSpace_nil⟩, hv⟩, by simp [Item.chars], rfl⟩
      simpa using Reads.afterItem hopen hitem
    | member members key =>
      obtain ⟨front, keyText, gap, hopen, ⟨hbefore, hbody, hafter⟩, hgap, rfl⟩ := h
      cases hs
      rename_i before body after
      have hmember : MemberText (stack.length + 1)
          (before ++ '"' :: (body ++ '"' :: (after ++ ':' :: (gap ++ cs)))) (key, v) :=
        ⟨⟨before, body, after, key, ⟨gap, cs, [], v⟩⟩,
          ⟨⟨hbefore, hbody, hafter, hgap, isSpace_nil⟩, hv⟩, by simp [Member.chars, Item.chars],
          rfl⟩
      simpa using Reads.afterMember hopen hmember

theorem reads_closeArray {items : List Json} (h : Waits stack pre) (hdepth : stack.length < 127)
    (hitems : Filled (ItemText (stack.length + 1)) items inner)
    (hs : closeArray items stack = some s) : Reads s (pre ++ '[' :: (inner ++ [']'])) :=
  reads_deliver h (valueText_of_filled hdepth hitems) hs

theorem reads_closeObject {members : List (String × Json)} (h : Waits stack pre)
    (hdepth : stack.length < 127) (hmembers : Filled (MemberText (stack.length + 1)) members inner)
    (hs : closeObject members stack = some s) : Reads s (pre ++ '\x7b' :: (inner ++ ['\x7d'])) := by
  rcases closeObject_eq_some hs with ⟨rfl, rfl⟩ | ⟨v, hv, hs⟩
  · obtain rfl : pre = [] := h
    simpa using Reads.done (objectText_of_filled hmembers) isSpace_nil
  · exact reads_deliver h (valueText_of_stands hdepth hmembers (stands_of_nested? hv)) hs

/-! ## One character -/

theorem Waits.concat (hne : stack ≠ []) (h : Waits stack pre) (hc : isSpace c = true) :
    Waits stack (pre ++ [c]) := by
  cases stack with
  | nil => exact absurd rfl hne
  | cons f stack =>
    cases f with
    | array items =>
      obtain ⟨front, gap, hopen, hgap, rfl⟩ := h
      exact ⟨front, gap ++ [c], hopen, hgap.concat hc, by simp⟩
    | member members key =>
      obtain ⟨front, keyText, gap, hopen, hkey, hgap, rfl⟩ := h
      exact ⟨front, keyText, gap ++ [c], hopen, hkey, hgap.concat hc, by simp⟩

theorem Reads.space (h : Reads s cs) (hs : s.betweenTokens = true) (hc : isSpace c = true) :
    Reads s (cs ++ [c]) := by
  cases h with
  | value hstack hne hfirst => exact .value (hstack.concat hne hc) hne hfirst
  | key hopen hgap hfirst =>
    rw [List.append_assoc]
    exact .key hopen (hgap.concat hc) hfirst
  | colon hopen hkey =>
    rw [List.append_assoc]
    exact .colon hopen (hkey.concat hc)
  | afterItem hopen hitem =>
    rw [List.append_assoc]
    exact .afterItem hopen (hitem.concat hc)
  | afterMember hopen hmember =>
    rw [List.append_assoc]
    exact .afterMember hopen (hmember.concat hc)
  | done hobject hgap =>
    rw [List.append_assoc]
    exact .done hobject (hgap.concat hc)
  | _ => cases hs

theorem escapedAfter_concat {escaped : Bool} {body : List Char}
    (hbody : escapedAfter false body.reverse = some escaped) :
    escapedAfter false (c :: body).reverse = escapedAfter escaped [c] := by
  rw [List.reverse_cons, escapedAfter_append, hbody, Option.bind_some]

theorem escapedAfter_singleton (hc : c ≠ '"') :
    escapedAfter false [c] = some (decide (c = '\\')) := by
  rw [escapedAfter, if_neg hc, escapedAfter_nil]

theorem bodyText_ofList {body xs : List Char}
    (hbody : escapedAfter false body = some false) (hxs : unescape? body = some xs) :
    BodyText body (String.ofList xs).toList := by
  rw [String.toList_ofList]
  exact bodyText_iff.2 ⟨hbody, hxs⟩

/-! ### A container begins -/

theorem Reads.openObject {first : Bool} (h : Reads (.value first stack) cs)
    (hdepth : stack.length < maxDepth) : Reads (.key true [] stack) (cs ++ ['\x7b']) := by
  cases h with
  | value hstack => simpa using Reads.key (hstack.opens hdepth) isSpace_nil fun _ => rfl

theorem Reads.openArray {first : Bool} (h : Reads (.value first stack) cs)
    (hdepth : stack.length < maxDepth) :
    Reads (.value true (.array [] :: stack)) (cs ++ ['[']) := by
  cases h with
  | value hstack =>
    have hopen : OpensArray stack [] (cs ++ ['[']) := hstack.opens hdepth
    exact .value ⟨_, [], hopen, isSpace_nil, by simp⟩ (by simp) fun _ => ⟨stack, rfl⟩

/-! ### A container ends -/

/-- Directly behind its bracket an array has no item. -/
theorem Reads.closeEmptyArray {items : List Json}
    (h : Reads (.value true (.array items :: stack)) cs)
    (hclose : Reader.closeArray items stack = some s) : Reads s (cs ++ [']']) := by
  cases h with
  | value hstack _ hfirst =>
    obtain ⟨outer, heq⟩ := hfirst rfl
    cases heq
    obtain ⟨front, gap, ⟨houter, hdepth, hparts⟩, hgap, rfl⟩ := hstack
    obtain rfl := hparts.eq_nil
    simpa using reads_closeArray houter hdepth (.none hgap) hclose

/-- Directly behind its brace an object has no member. -/
theorem Reads.closeEmptyObject {members : List (String × Json)}
    (h : Reads (.key true members stack) cs)
    (hclose : Reader.closeObject members stack = some s) : Reads s (cs ++ ['\x7d']) := by
  cases h with
  | key hopen hgap hfirst =>
    obtain rfl := hfirst rfl
    obtain ⟨houter, hdepth, hparts⟩ := hopen
    obtain rfl := hparts.eq_nil
    simpa using reads_closeObject houter hdepth (.none hgap) hclose

theorem Reads.lastItem {items : List Json} (h : Reads (.afterItem items stack) cs)
    (hclose : Reader.closeArray items stack = some s) : Reads s (cs ++ [']']) := by
  cases h with
  | afterItem hopen hitem =>
    obtain ⟨houter, hdepth, hparts⟩ := hopen
    simpa using reads_closeArray houter hdepth (.some hparts hitem) hclose

theorem Reads.lastMember {members : List (String × Json)}
    (h : Reads (.afterMember members stack) cs)
    (hclose : Reader.closeObject members stack = some s) : Reads s (cs ++ ['\x7d']) := by
  cases h with
  | afterMember hopen hmember =>
    obtain ⟨houter, hdepth, hparts⟩ := hopen
    simpa using reads_closeObject houter hdepth (.some hparts hmember) hclose

/-! ### Between the parts of a container -/

theorem Reads.colonBehindKey {members : List (String × Json)} {key : String}
    (h : Reads (.colon members key stack) cs) :
    Reads (.value false (.member members key :: stack)) (cs ++ [':']) := by
  cases h with
  | colon hopen hkey =>
    rw [List.append_assoc]
    exact .value ⟨_, _, [], hopen, hkey, isSpace_nil, rfl⟩ (by simp) (by simp)

theorem Reads.nextItem {items : List Json} (h : Reads (.afterItem items stack) cs) :
    Reads (.value false (.array items :: stack)) (cs ++ [',']) := by
  cases h with
  | afterItem hopen hitem =>
    rw [List.append_assoc]
    exact .value ⟨_, [], hopen.comma hitem, isSpace_nil, by simp⟩ (by simp) (by simp)

theorem Reads.nextMember {members : List (String × Json)}
    (h : Reads (.afterMember members stack) cs) :
    Reads (.key false members stack) (cs ++ [',']) := by
  cases h with
  | @afterMember members entry _ _ _ hopen hmember =>
    have hkey : Reads (.key false (entry :: members) stack) _ :=
      .key (hopen.comma hmember) isSpace_nil (by simp)
    simpa using hkey

/-! ### Keys, texts and bare tokens -/

theorem Reads.beginKey {first : Bool} {members : List (String × Json)}
    (h : Reads (.key first members stack) cs) :
    Reads (.keyBody false [] members stack) (cs ++ ['"']) := by
  cases h with
  | key hopen hgap =>
    rw [List.append_assoc]
    exact .keyBody hopen hgap rfl

/-- A character of a key, which leaves it `escaped'` or not. -/
theorem Reads.keyChar {escaped escaped' : Bool} {body : List Char}
    {members : List (String × Json)} (h : Reads (.keyBody escaped body members stack) cs)
    (hc : escapedAfter escaped [c] = some escaped') :
    Reads (.keyBody escaped' (c :: body) members stack) (cs ++ [c]) := by
  cases h with
  | keyBody hopen hgap hbody =>
    simpa using Reads.keyBody hopen hgap ((escapedAfter_concat hbody).trans hc)

theorem Reads.endKey {body xs : List Char} {members : List (String × Json)}
    (h : Reads (.keyBody false body members stack) cs) (hxs : unescape? body.reverse = some xs) :
    Reads (.colon members (String.ofList xs) stack) (cs ++ ['"']) := by
  cases h with
  | keyBody hopen hgap hbody =>
    simpa using Reads.colon hopen (.mk hgap (bodyText_ofList hbody hxs) isSpace_nil)

/-- A character of a text, which leaves it `escaped'` or not. -/
theorem Reads.textChar {escaped escaped' : Bool} {body : List Char}
    (h : Reads (.textBody escaped body stack) cs)
    (hc : escapedAfter escaped [c] = some escaped') :
    Reads (.textBody escaped' (c :: body) stack) (cs ++ [c]) := by
  cases h with
  | textBody hstack hbody =>
    simpa using Reads.textBody hstack ((escapedAfter_concat hbody).trans hc)

theorem Reads.endText {body xs : List Char} (h : Reads (.textBody false body stack) cs)
    (hxs : unescape? body.reverse = some xs)
    (hdeliver : deliver (.text (String.ofList xs)) stack = some s) : Reads s (cs ++ ['"']) := by
  cases h with
  | textBody hstack hbody =>
    simpa using reads_deliver hstack (.text (bodyText_ofList hbody hxs)) hdeliver

theorem Reads.bareChar {body : List Char} (h : Reads (.bare body stack) cs) (c : Char) :
    Reads (.bare (c :: body) stack) (cs ++ [c]) := by
  cases h with
  | bare hstack =>
    have hbare : Reads (.bare (c :: body) stack) _ := .bare hstack
    simpa using hbare

/-- A bare token has ended before the character that shows it, so nothing is added here. -/
theorem Reads.endBare {body : List Char} (h : Reads (.bare body stack) cs)
    (hv : scalar? body.reverse = some v) (hdeliver : deliver v stack = some s) : Reads s cs := by
  cases h with
  | bare hstack => exact reads_deliver hstack (.scalar (scalar?_eq_some_iff.1 hv)) hdeliver

/-! ### All moves -/

/-- **Every character keeps what has been read in step with the state.** -/
theorem Reads.move (hmove : Move s c s') (h : Reads s cs) : Reads s' (cs ++ [c]) := by
  induction hmove generalizing cs with
  | start =>
    cases h
    have hopen : OpensObject [] [] ([] ++ ['\x7b']) := Waits.opens rfl (by decide)
    simpa using Reads.key hopen isSpace_nil fun _ => rfl
  | space hs hc => exact h.space hs hc
  | text =>
    cases h with
    | value hstack => exact .textBody hstack rfl
  | object hdepth => exact h.openObject hdepth
  | array hdepth => exact h.openArray hdepth
  | noItem hclose => exact h.closeEmptyArray hclose
  | bare =>
    cases h with
    | value hstack => exact .bare hstack
  | key => exact h.beginKey
  | noMember hclose => exact h.closeEmptyObject hclose
  | keyEscaped => exact h.keyChar rfl
  | keyChar hc => exact h.keyChar (escapedAfter_singleton hc)
  | keyEnd hxs => exact h.endKey hxs
  | colon => exact h.colonBehindKey
  | textEscaped => exact h.textChar rfl
  | textChar hc => exact h.textChar (escapedAfter_singleton hc)
  | textEnd hxs hdeliver => exact h.endText hxs hdeliver
  | bareChar => exact h.bareChar _
  | bareEnd _ hv hdeliver _ ih => exact ih (h.endBare hv hdeliver)
  | nextItem => exact h.nextItem
  | lastItem hclose => exact h.lastItem hclose
  | nextMember => exact h.nextMember
  | lastMember hclose => exact h.lastMember hclose

theorem Reads.run {more : List Char} (h : Reads s cs) (hs : Reader.run s more = some s') :
    Reads s' (cs ++ more) := by
  induction more generalizing s cs with
  | nil =>
    cases hs
    rwa [List.append_nil]
  | cons c more ih =>
    obtain ⟨t, ht, hs⟩ := exists_move_of_run_cons hs
    rw [← List.singleton_append, ← List.append_assoc]
    exact ih (h.move ht) hs

end Reader

/-- **What the machine accepts is in the grammar**: an object and space behind it. -/
theorem objectText_of_readObject? {kept : List (String × Json)} (h : readObject? cs = some kept) :
    ∃ object gap, cs = object ++ gap ∧ ObjectText object kept ∧ IsSpace gap := by
  unfold readObject? at h
  split at h
  · rename_i members hrun
    cases h
    have hreads := Reader.Reads.start.run hrun
    rw [List.nil_append] at hreads
    cases hreads with
    | done hobject hgap => exact ⟨_, _, rfl, hobject, hgap⟩
  · cases h

end Json
end TelemetryLog
