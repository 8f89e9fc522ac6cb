import DocsConsole.Proofs.Json.Tokens

/-!
# Reading written values

The text of a value is read as the tree of the value.  What is written of an item or a member
may be followed by anything that begins with a mark, so the steps of the reader are followed
one after another.
-/

namespace DocsConsole

/-! ## Induction -/

theorem sizeOf_second_lt {α β : Type} [SizeOf α] [SizeOf β] {pairs : List (α × β)} {first : α}
    {second : β} (inside : (first, second) ∈ pairs) : sizeOf second < sizeOf pairs := by
  have smaller := List.sizeOf_lt_of_mem inside
  rw [Prod.mk.sizeOf_spec] at smaller
  omega

/-- What holds of a value if it holds of its items and members holds of all values. -/
@[elab_as_elim]
theorem Json.inductionOn {motive : Json → Prop} (json : Json) (null : motive .null)
    (bool : ∀ value, motive (.bool value)) (number : ∀ value, motive (.number value))
    (string : ∀ text, motive (.string text))
    (array : ∀ items, (∀ item ∈ items, motive item) → motive (.array items))
    (object : ∀ members, (∀ name member, (name, member) ∈ members → motive member) →
      motive (.object members)) : motive json :=
  match json with
  | .null => null
  | .bool value => bool value
  | .number value => number value
  | .string text => string text
  | .array items => array items fun item _ =>
      Json.inductionOn item null bool number string array object
  | .object members => object members fun _ member inside =>
      have := sizeOf_second_lt inside
      Json.inductionOn member null bool number string array object

/-- What holds of a tree if it holds of its items and members holds of all trees. -/
@[elab_as_elim]
theorem JsonText.inductionOn {motive : JsonText → Prop} (tree : JsonText) (null : motive .null)
    (bool : ∀ value, motive (.bool value)) (number : ∀ value, motive (.number value))
    (string : ∀ text, motive (.string text))
    (array : ∀ items, (∀ item ∈ items, motive item) → motive (.array items))
    (object : ∀ members, (∀ name member, (name, member) ∈ members → motive member) →
      motive (.object members)) : motive tree :=
  match tree with
  | .null => null
  | .bool value => bool value
  | .number value => number value
  | .string text => string text
  | .array items => array items fun item _ =>
      JsonText.inductionOn item null bool number string array object
  | .object members => object members fun _ member inside =>
      have := sizeOf_second_lt inside
      JsonText.inductionOn member null bool number string array object

/-! ## Tokens of a value -/

namespace Json

open JsonToken

/-- A value begins neither with a closing bracket nor with a closing brace. -/
theorem tokens_eq_cons (json : Json) :
    ∃ first more, tokens json = first :: more ∧ first ≠ .closeArray ∧ first ≠ .closeObject := by
  match json with
  | .null | .bool _ | .number _ | .string _ =>
      exact ⟨_, _, by rw [tokens], by simp, by simp⟩
  | .array [] | .object [] => exact ⟨_, _, by rw [tokens], by simp, by simp⟩
  | .array (_ :: _) => exact ⟨_, _, by rw [tokens, List.cons_append], by simp, by simp⟩
  | .object (_ :: _) => exact ⟨_, _, by rw [tokens, List.cons_append], by simp, by simp⟩

/-- What may follow a word. -/
structure Continues (rest : List JsonToken) : Prop where
  begins : ∀ token ∈ rest.head?, token.isMark = true
  apart : rest.IsChain Apart

theorem Continues.cons {mark : JsonToken} (isMark : mark.isMark = true) {rest : List JsonToken}
    (apart : rest.IsChain Apart) : Continues (mark :: rest) where
  begins := by
    rintro token begins
    cases begins
    exact isMark
  apart := List.isChain_cons.mpr ⟨fun _ _ => Or.inl isMark, apart⟩

theorem Continues.word {rest : List JsonToken} (continues : Continues rest) (word : JsonToken) :
    (word :: rest).IsChain Apart :=
  List.isChain_cons.mpr ⟨fun next begins => Or.inr (continues.begins next begins), continues.apart⟩

/-- A value whose tokens are apart from each other and from what follows them. -/
def StaysApart (json : Json) : Prop :=
  ∀ {rest : List JsonToken}, Continues rest → (tokens json ++ rest).IsChain Apart

theorem continues_itemTokens {items : List Json} (each : ∀ item ∈ items, item.StaysApart)
    {rest : List JsonToken} (apart : rest.IsChain Apart) :
    Continues (itemTokens items ++ rest) := by
  induction items with
  | nil => exact .cons rfl apart
  | cons item items induction =>
      have others := induction fun other member => each other (List.mem_cons_of_mem item member)
      rw [itemTokens, List.append_assoc, List.cons_append]
      exact .cons rfl (each item List.mem_cons_self others)

theorem continues_memberTokens {members : List (String × Json)}
    (each : ∀ name member, (name, member) ∈ members → member.StaysApart)
    {rest : List JsonToken} (apart : rest.IsChain Apart) :
    Continues (memberTokens members ++ rest) := by
  induction members with
  | nil => exact .cons rfl apart
  | cons first members induction =>
      obtain ⟨name, member⟩ := first
      have others := induction fun other value inside =>
        each other value (List.mem_cons_of_mem _ inside)
      have value := each name member List.mem_cons_self others
      rw [memberTokens, List.append_assoc]
      exact .cons rfl (Continues.word (.cons rfl value) _)

theorem staysApart (json : Json) : json.StaysApart := by
  induction json using Json.inductionOn with
  | null | bool | number | string =>
      intro rest continues
      rw [tokens]
      exact continues.word _
  | array items each =>
      intro rest continues
      cases items with
      | nil =>
          rw [tokens]
          exact (Continues.cons rfl (Continues.cons rfl continues.apart).apart).apart
      | cons item items =>
          have others := continues_itemTokens
            (fun other member => each other (List.mem_cons_of_mem item member)) continues.apart
          rw [tokens, List.append_assoc]
          exact (Continues.cons rfl (each item List.mem_cons_self others)).apart
  | object members each =>
      intro rest continues
      cases members with
      | nil =>
          rw [tokens]
          exact (Continues.cons rfl (Continues.cons rfl continues.apart).apart).apart
      | cons first members =>
          obtain ⟨name, member⟩ := first
          have others := continues_memberTokens (fun other value inside =>
            each other value (List.mem_cons_of_mem _ inside)) continues.apart
          have value := each name member List.mem_cons_self others
          rw [tokens, List.append_assoc]
          exact (Continues.cons rfl (Continues.word (.cons rfl value) _)).apart

end Json

/-! ## Reading the tokens -/

namespace JsonText

open Json

/-- A value that is read back from its tokens, with two steps for each token. -/
def ReadsBack (json : Json) : Prop :=
  ∀ (fuel : Nat) (rest : List JsonToken), 2 * (tokens json).length ≤ fuel →
    readValue fuel (tokens json ++ rest) = some (ofValue json, rest)

theorem readItems_tokens {item : Json} {items : List Json}
    (each : ∀ other ∈ item :: items, ReadsBack other) (fuel : Nat)
    (enough : 2 * (tokens item ++ itemTokens items).length ≤ fuel) (rest : List JsonToken) :
    readItems fuel (tokens item ++ (itemTokens items ++ rest)) =
      some (ofValues (item :: items), rest) := by
  induction items generalizing item fuel with
  | nil =>
      -- The closing bracket has two steps, and the list of items takes one of them.
      rw [itemTokens] at enough ⊢
      rw [List.length_append, List.length_singleton] at enough
      obtain ⟨less, rfl⟩ : ∃ less, fuel = less + 1 := ⟨fuel - 1, by omega⟩
      have first := each item List.mem_cons_self less (.closeArray :: rest) (by omega)
      rw [List.singleton_append, readItems, first, ofValues, ofValues]
  | cons next items induction =>
      rw [itemTokens] at enough ⊢
      simp only [List.length_append, List.length_cons] at enough
      obtain ⟨less, rfl⟩ : ∃ less, fuel = less + 1 := ⟨fuel - 1, by omega⟩
      have first := each item List.mem_cons_self less
        (.comma :: (tokens next ++ (itemTokens items ++ rest))) (by omega)
      have others := induction (fun other member => each other (List.mem_cons_of_mem item member))
        less (by rw [List.length_append]; omega)
      rw [List.cons_append, List.cons_append, List.append_assoc, readItems, first]
      dsimp only
      rw [others]
      rfl

theorem readMembers_tokens {name : String} {member : Json} {members : List (String × Json)}
    (each : ∀ other value, (other, value) ∈ (name, member) :: members → ReadsBack value)
    (fuel : Nat) (enough : 2 * (tokens member ++ memberTokens members).length ≤ fuel)
    (rest : List JsonToken) :
    readMembers fuel (.string (some name) :: .colon ::
      (tokens member ++ (memberTokens members ++ rest))) =
      some (ofMembers ((name, member) :: members), rest) := by
  induction members generalizing name member fuel with
  | nil =>
      rw [memberTokens] at enough ⊢
      rw [List.length_append, List.length_singleton] at enough
      obtain ⟨less, rfl⟩ : ∃ less, fuel = less + 1 := ⟨fuel - 1, by omega⟩
      have first := each name member List.mem_cons_self less (.closeObject :: rest)
        (by omega)
      rw [List.singleton_append, readMembers, first, ofMembers, ofMembers]
  | cons next members induction =>
      obtain ⟨other, value⟩ := next
      rw [memberTokens] at enough ⊢
      simp only [List.length_append, List.length_cons] at enough
      obtain ⟨less, rfl⟩ : ∃ less, fuel = less + 1 := ⟨fuel - 1, by omega⟩
      have first := each name member List.mem_cons_self less
        (.comma :: .string (some other) :: .colon ::
          (tokens value ++ (memberTokens members ++ rest))) (by omega)
      have others := induction
        (fun name value inside => each name value (List.mem_cons_of_mem _ inside))
        less (by rw [List.length_append]; omega)
      simp only [List.cons_append, List.append_assoc]
      rw [readMembers, first]
      dsimp only
      rw [others]
      rfl

theorem readsBack (json : Json) : ReadsBack json := by
  induction json using Json.inductionOn with
  | null | bool | number | string =>
      intro fuel rest enough
      rw [tokens, List.singleton_append, readValue, ofValue]
  | array items each =>
      intro fuel rest enough
      cases items with
      | nil =>
          rw [tokens, List.cons_append, List.singleton_append, readValue, ofValue, ofValues]
      | cons item items =>
          rw [tokens] at enough ⊢
          rw [List.length_append, List.length_cons] at enough
          obtain ⟨less, rfl⟩ : ∃ less, fuel = less + 1 := ⟨fuel - 1, by omega⟩
          have read := readItems_tokens each less
            (by rw [List.length_append]; omega) rest
          obtain ⟨first, more, begins, notClosing, _⟩ := tokens_eq_cons item
          rw [List.cons_append, List.cons_append, List.append_assoc, readValue, read,
            Option.map_some, ofValue]
          -- The empty array is read in another way, so the first item may not be a closing bracket.
          rw [begins]
          exact fun _ equal => notClosing (List.cons.inj equal).1
  | object members each =>
      intro fuel rest enough
      cases members with
      | nil =>
          rw [tokens, List.cons_append, List.singleton_append, readValue, ofValue, ofMembers]
      | cons first members =>
          obtain ⟨name, member⟩ := first
          rw [tokens] at enough ⊢
          simp only [List.length_append, List.length_cons] at enough
          obtain ⟨less, rfl⟩ : ∃ less, fuel = less + 1 := ⟨fuel - 1, by omega⟩
          have read := readMembers_tokens each less
            (by rw [List.length_append]; omega) rest
          simp only [List.cons_append, List.append_assoc]
          rw [readValue, read, Option.map_some, ofValue]
          simp

/-- The tree of a value is read from the tokens of the value. -/
theorem ofTokens?_tokens (json : Json) : ofTokens? (tokens json) = some (ofValue json) := by
  have read := readsBack json _ [] (Nat.le_refl _)
  rw [List.append_nil] at read
  rw [ofTokens?, read]

end JsonText

end DocsConsole
