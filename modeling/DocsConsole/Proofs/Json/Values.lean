import DocsConsole.Proofs.Json.Trees
import Mathlib.Data.List.Nodup

/-!
# Values that are read back

A value that was read has no name twice in an object and is nested no deeper than the reader
allows.  If the numbers of its text are whole, it is written so that the same value is read
again.
-/

namespace DocsConsole

namespace JsonText

mutual

/-- The numbers of a tree, in order. -/
def numbers : JsonText → List (Option JsonNumber)
  | .number value => [value]
  | .array items => itemNumbers items
  | .object members => memberNumbers members
  | _ => []

def itemNumbers : List JsonText → List (Option JsonNumber)
  | [] => []
  | item :: items => numbers item ++ itemNumbers items

def memberNumbers : List (Option String × JsonText) → List (Option JsonNumber)
  | [] => []
  | (_, member) :: members => numbers member ++ memberNumbers members

end

/-- A tree whose numbers are all integers of 64 bits, wherever they are. -/
def Whole (tree : JsonText) : Prop :=
  ∀ number ∈ tree.numbers, ∃ value ∈ number, value.IsWhole

instance (tree : JsonText) : Decidable tree.Whole :=
  inferInstanceAs (Decidable (∀ number ∈ tree.numbers, ∃ value ∈ number, value.IsWhole))

theorem mem_itemNumbers {items : List JsonText} {item : JsonText} (listed : item ∈ items)
    {number : Option JsonNumber} (inside : number ∈ item.numbers) :
    number ∈ itemNumbers items := by
  induction items with
  | nil => contradiction
  | cons first items induction =>
      rw [itemNumbers, List.mem_append]
      rcases List.mem_cons.mp listed with rfl | listed
      · exact Or.inl inside
      · exact Or.inr (induction listed)

theorem mem_memberNumbers {members : List (Option String × JsonText)} {name : Option String}
    {member : JsonText} (listed : (name, member) ∈ members) {number : Option JsonNumber}
    (inside : number ∈ member.numbers) : number ∈ memberNumbers members := by
  induction members with
  | nil => contradiction
  | cons first members induction =>
      obtain ⟨other, value⟩ := first
      rw [memberNumbers, List.mem_append]
      rcases List.mem_cons.mp listed with same | listed
      · cases same
        exact Or.inl inside
      · exact Or.inr (induction listed)

theorem Whole.item {items : List JsonText} (whole : Whole (.array items)) {item : JsonText}
    (listed : item ∈ items) : item.Whole :=
  fun number inside => whole number (by rw [numbers]; exact mem_itemNumbers listed inside)

theorem Whole.member {members : List (Option String × JsonText)} (whole : Whole (.object members))
    {name : Option String} {member : JsonText} (listed : (name, member) ∈ members) :
    member.Whole :=
  fun number inside => whole number (by rw [numbers]; exact mem_memberNumbers listed inside)

end JsonText

namespace Json

/-- A value with whole numbers, distinct names in each object, and arrays and objects nested up
to a depth. -/
inductive Fits : Nat → Json → Prop where
  | null {depth : Nat} : Fits depth .null
  | bool {depth : Nat} {value : Bool} : Fits depth (.bool value)
  | number {depth : Nat} {number : JsonNumber} (whole : number.IsWhole) :
      Fits depth (.number number)
  | string {depth : Nat} {text : String} : Fits depth (.string text)
  | array {depth : Nat} {items : List Json} (each : ∀ item ∈ items, Fits depth item) :
      Fits (depth + 1) (.array items)
  | object {depth : Nat} {members : List (String × Json)} (distinct : (members.map (·.1)).Nodup)
      (each : ∀ name member, (name, member) ∈ members → Fits depth member) :
      Fits (depth + 1) (.object members)

/-- The members of an object that fits. -/
structure FitMembers (depth : Nat) (members : List (String × Json)) : Prop where
  distinct : (members.map (·.1)).Nodup
  each : ∀ name member, (name, member) ∈ members → Fits depth member

/-! ## Writing -/

theorem isReadable_itemTokens {items : List Json}
    (each : ∀ item ∈ items, ∀ token ∈ tokens item, token.IsReadable) :
    ∀ token ∈ itemTokens items, token.IsReadable := by
  induction items with
  | nil => simp [itemTokens, JsonToken.IsReadable]
  | cons item items induction =>
      rw [itemTokens, List.forall_mem_append, List.forall_mem_cons]
      exact ⟨⟨trivial, each item List.mem_cons_self⟩,
        induction fun other member => each other (List.mem_cons_of_mem item member)⟩

theorem isReadable_memberTokens {members : List (String × Json)}
    (each : ∀ name member, (name, member) ∈ members →
      ∀ token ∈ tokens member, token.IsReadable) :
    ∀ token ∈ memberTokens members, token.IsReadable := by
  induction members with
  | nil => simp [memberTokens, JsonToken.IsReadable]
  | cons first members induction =>
      obtain ⟨name, member⟩ := first
      simp only [memberTokens, List.forall_mem_append, List.forall_mem_cons]
      exact ⟨⟨trivial, rfl, trivial, each name member List.mem_cons_self⟩,
        induction fun other value inside => each other value (List.mem_cons_of_mem _ inside)⟩

theorem Fits.isReadable {depth : Nat} {json : Json} (fits : Fits depth json) :
    ∀ token ∈ tokens json, token.IsReadable := by
  induction fits with
  | null | bool | string => simp [tokens, JsonToken.IsReadable]
  | number whole =>
      rw [tokens, List.forall_mem_singleton]
      exact ⟨_, rfl, whole⟩
  | @array _ items _ each =>
      cases items with
      | nil => simp [tokens, JsonToken.IsReadable]
      | cons item items =>
          rw [tokens, List.forall_mem_append, List.forall_mem_cons]
          exact ⟨⟨trivial, each item List.mem_cons_self⟩, isReadable_itemTokens fun other member =>
            each other (List.mem_cons_of_mem item member)⟩
  | @object _ members _ _ each =>
      cases members with
      | nil => simp [tokens, JsonToken.IsReadable]
      | cons first members =>
          obtain ⟨name, member⟩ := first
          simp only [tokens, List.forall_mem_append, List.forall_mem_cons]
          exact ⟨⟨trivial, rfl, trivial, each name member List.mem_cons_self⟩,
            isReadable_memberTokens fun other value inside =>
              each other value (List.mem_cons_of_mem _ inside)⟩

/-- The tree of a value that fits is read from the text of the value. -/
theorem Fits.ofString?_write {depth : Nat} {json : Json} (fits : Fits depth json) :
    JsonText.ofString? json.write = some (JsonText.ofValue json) := by
  have apart := json.staysApart ⟨by simp, .nil⟩
  rw [List.append_nil] at apart
  rw [JsonText.ofString?, JsonText.ofSource?, write, String.toList_ofList,
    JsonToken.ofSource_write fits.isReadable apart, Option.bind_some, JsonText.ofTokens?_tokens]

/-! ## The value of a written tree -/

theorem setMember_of_not_mem {members : List (String × Json)} {name : String} (value : Json)
    (absent : name ∉ members.map (·.1)) :
    setMember members name value = members ++ [(name, value)] := by
  induction members with
  | nil => rfl
  | cons first members induction =>
      obtain ⟨key, old⟩ := first
      rw [List.map_cons, List.mem_cons, not_or] at absent
      rw [setMember, if_neg (Ne.symm absent.1), induction absent.2, List.cons_append]

theorem values?_ofValues {depth : Nat} {items : List Json}
    (each : ∀ item ∈ items, JsonText.value? depth (JsonText.ofValue item) = some item) :
    JsonText.values? depth (JsonText.ofValues items) = some items := by
  induction items with
  | nil => rw [JsonText.ofValues, JsonText.values?]
  | cons item items induction =>
      have others := induction fun other member => each other (List.mem_cons_of_mem item member)
      simp only [JsonText.ofValues, JsonText.values?, each item List.mem_cons_self, others,
        Option.map_some]

theorem memberValues?_ofMembers {depth : Nat} {found members : List (String × Json)}
    (distinct : ((found ++ members).map (·.1)).Nodup)
    (each : ∀ name member, (name, member) ∈ members →
      JsonText.value? depth (JsonText.ofValue member) = some member) :
    JsonText.memberValues? depth found (JsonText.ofMembers members) = some (found ++ members) := by
  induction members generalizing found with
  | nil => rw [JsonText.ofMembers, JsonText.memberValues?, List.append_nil]
  | cons first members induction =>
      obtain ⟨name, member⟩ := first
      have absent : name ∉ found.map (·.1) := by
        rw [List.map_append] at distinct
        exact fun known => (List.nodup_append.mp distinct).2.2 name known name
          List.mem_cons_self rfl
      have regrouped : found ++ (name, member) :: members =
          (found ++ [(name, member)]) ++ members := by
        simp
      rw [regrouped] at distinct ⊢
      have others := induction distinct
        fun other value inside => each other value (List.mem_cons_of_mem _ inside)
      simp only [JsonText.ofMembers, JsonText.memberValues?, each name member List.mem_cons_self,
        setMember_of_not_mem member absent, others]

theorem Fits.value?_ofValue {depth : Nat} {json : Json} (fits : Fits depth json) :
    JsonText.value? depth (JsonText.ofValue json) = some json := by
  induction fits with
  | null | bool | string | number => simp [JsonText.ofValue, JsonText.value?]
  | array _ each =>
      rw [JsonText.ofValue, JsonText.value?, values?_ofValues each, Option.map_some]
  | @object depth members distinct _ each =>
      have read : JsonText.memberValues? depth [] (JsonText.ofMembers members) = some members :=
        memberValues?_ofMembers distinct each
      rw [JsonText.ofValue, JsonText.value?, read, Option.map_some]

/-- A value that fits is read from what is written of it. -/
theorem Fits.read?_write {json : Json} (fits : Fits JsonText.depthLimit json) :
    read? json.write = some json := by
  rw [read?, fits.ofString?_write, Option.bind_some, fits.value?_ofValue]

/-! ## Members that were read -/

theorem map_setMember (members : List (String × Json)) (name : String) (value : Json) :
    (setMember members name value).map (·.1) =
      if name ∈ members.map (·.1) then members.map (·.1) else members.map (·.1) ++ [name] := by
  induction members with
  | nil => rfl
  | cons first members induction =>
      obtain ⟨key, old⟩ := first
      rw [setMember]
      by_cases same : key = name
      · simp [same]
      · rw [if_neg same, List.map_cons, induction]
        by_cases known : name ∈ members.map (·.1)
        · simp [known]
        · simp [known, Ne.symm same]

/-- What is found after a member was added. -/
theorem member?_setMember (members : List (String × Json)) (name key : String) (value : Json) :
    (object (setMember members name value)).member? key =
      if name = key then some value else (object members).member? key := by
  induction members with
  | nil => by_cases same : name = key <;> simp [setMember, member?, same]
  | cons first members induction =>
      obtain ⟨other, old⟩ := first
      simp only [member?] at induction ⊢
      rw [setMember]
      split
      case isTrue here =>
        subst here
        by_cases same : other = key <;> simp [same]
      case isFalse elsewhere =>
        by_cases known : other = key
        · simp [known, Ne.symm (known ▸ elsewhere)]
        · simp [known, induction]

/-- Where no name comes twice, what is found under a name is what stands under it. -/
theorem member?_eq_some_iff {members : List (String × Json)} (distinct : (members.map (·.1)).Nodup)
    {name : String} {value : Json} :
    (object members).member? name = some value ↔ (name, value) ∈ members := by
  induction members with
  | nil => simp [member?]
  | cons first members induction =>
      obtain ⟨key, old⟩ := first
      obtain ⟨absent, distinct⟩ := List.nodup_cons.mp distinct
      simp only [member?] at induction ⊢
      by_cases same : key = name
      · subst same
        have other : (key, value) ∉ members := fun inside =>
          absent (List.mem_map.mpr ⟨_, inside, rfl⟩)
        simp [other, eq_comm]
      · simp [same, Ne.symm same, induction distinct]

theorem FitMembers.nil (depth : Nat) : FitMembers depth [] :=
  ⟨List.nodup_nil, fun _ _ inside => nomatch inside⟩

theorem FitMembers.setMember {depth : Nat} {members : List (String × Json)}
    (fit : FitMembers depth members) (name : String) {value : Json} (fits : Fits depth value) :
    FitMembers depth (setMember members name value) := by
  have distinct : ((Json.setMember members name value).map (·.1)).Nodup := by
    rw [map_setMember]
    split
    case isTrue => exact fit.distinct
    case isFalse absent =>
      exact List.nodup_append.mpr ⟨fit.distinct, List.nodup_singleton name, by
        rintro key known other single rfl
        exact absent (List.mem_singleton.mp single ▸ known)⟩
  refine ⟨distinct, fun key member inside => ?_⟩
  rw [← member?_eq_some_iff distinct, member?_setMember] at inside
  split at inside
  case isTrue =>
    cases inside
    exact fits
  case isFalse =>
    exact fit.each key member ((member?_eq_some_iff fit.distinct).mp inside)

end Json

namespace JsonText

open Json

/-- A tree of which every value that is read fits. -/
def ReadsFit (tree : JsonText) : Prop :=
  ∀ {depth : Nat} {json : Json}, value? depth tree = some json → Fits depth json

theorem fits_of_values? {depth : Nat} {items : List JsonText} {values : List Json}
    (each : ∀ item ∈ items, item.ReadsFit) (read : values? depth items = some values) :
    ∀ value ∈ values, Fits depth value := by
  induction items generalizing values with
  | nil =>
      rw [values?] at read
      cases read
      exact fun _ none => nomatch none
  | cons item items induction =>
      rw [values?] at read
      cases first : value? depth item with
      | none => simp [first] at read
      | some value =>
          rw [first] at read
          obtain ⟨others, readOthers, rfl⟩ := Option.map_eq_some_iff.mp read
          rw [List.forall_mem_cons]
          exact ⟨each item List.mem_cons_self first,
            induction (fun other member => each other (List.mem_cons_of_mem item member))
              readOthers⟩

theorem fitMembers_of_memberValues? {depth : Nat} {members : List (Option String × JsonText)}
    {found values : List (String × Json)}
    (each : ∀ name member, (name, member) ∈ members → member.ReadsFit)
    (fit : FitMembers depth found) (read : memberValues? depth found members = some values) :
    FitMembers depth values := by
  induction members generalizing found with
  | nil =>
      rw [memberValues?] at read
      cases read
      exact fit
  | cons first members induction =>
      obtain ⟨name, member⟩ := first
      cases name with
      | none => simp [memberValues?] at read
      | some name =>
          cases value : value? depth member with
          | none => simp [memberValues?, value] at read
          | some json =>
              simp only [memberValues?, value] at read
              exact induction (fun other tree inside => each other tree
                (List.mem_cons_of_mem _ inside))
                (fit.setMember name (each _ member List.mem_cons_self value)) read

theorem Whole.readsFit {tree : JsonText} (whole : tree.Whole) : tree.ReadsFit := by
  induction tree using JsonText.inductionOn with
  | null =>
      intro depth json read
      rw [value?] at read
      cases read
      exact .null
  | bool value =>
      intro depth json read
      rw [value?] at read
      cases read
      exact .bool
  | number value =>
      intro depth json read
      rw [value?] at read
      obtain ⟨number, rfl, rfl⟩ := Option.map_eq_some_iff.mp read
      obtain ⟨_, same, isWhole⟩ := whole (some number) (by simp [numbers])
      cases same
      exact .number isWhole
  | string text =>
      intro depth json read
      rw [value?] at read
      obtain ⟨text, _, rfl⟩ := Option.map_eq_some_iff.mp read
      exact .string
  | array items each =>
      intro depth json read
      cases depth with
      | zero => simp [value?] at read
      | succ depth =>
          rw [value?] at read
          obtain ⟨values, readItems, rfl⟩ := Option.map_eq_some_iff.mp read
          exact .array (fits_of_values? (fun item listed => each item listed (whole.item listed))
            readItems)
  | object members each =>
      intro depth json read
      cases depth with
      | zero => simp [value?] at read
      | succ depth =>
          rw [value?] at read
          obtain ⟨values, readMembers, rfl⟩ := Option.map_eq_some_iff.mp read
          have fit := fitMembers_of_memberValues?
            (fun name member listed => each name member listed (whole.member listed))
            (.nil depth) readMembers
          exact .object fit.distinct fit.each

end JsonText

end DocsConsole
