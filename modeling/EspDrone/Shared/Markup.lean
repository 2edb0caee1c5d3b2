import Mathlib.Data.List.Basic

set_option autoImplicit false

namespace Markup

structure Tag where
  closing : Bool
  name : List Char
  attributes : List (List Char)
  deriving DecidableEq, Repr

def Tag.addAttribute (tag : Tag) (name : List Char) : Tag :=
  { tag with attributes := tag.attributes ++ [name] }

inductive State where
  | data
  | tagOpen
  | endTagOpen
  -- After `<!`, `<?` or a malformed `</`, with the characters since.
  | declaration (seen : List Char)
  | tagName (tag : Tag)
  | beforeAttribute (tag : Tag)
  | attributeName (tag : Tag) (name : List Char)
  | afterAttributeName (tag : Tag)
  | beforeValue (tag : Tag)
  | quoted (tag : Tag) (quote : Char)
  | unquoted (tag : Tag)
  deriving DecidableEq, Repr

def isSpace (c : Char) : Bool :=
  c == ' ' || c == '\t' || c == '\n' || c == '\r' || c == '\x0c'

-- A comment that its own `--` has not ended yet.
def inComment (seen : List Char) : Bool :=
  ['-', '-'].isPrefixOf seen && !(['-', '-'].isSuffixOf seen)

-- The next state, and the tag that ends with this character.
def step : State → Char → State × Option Tag
  | .data, c => (if c = '<' then .tagOpen else .data, none)
  | .tagOpen, c =>
      if c = '!' then (.declaration [], none)
      else if c = '?' then (.declaration ['?'], none)
      else if c = '/' then (.endTagOpen, none)
      else if c.isAlpha then (.tagName ⟨false, [c.toLower], []⟩, none)
      else if c = '<' then (.tagOpen, none)
      else (.data, none)
  | .endTagOpen, c =>
      if c.isAlpha then (.tagName ⟨true, [c.toLower], []⟩, none)
      else if c = '>' then (.data, none)
      else (.declaration ['/', c], none)
  | .declaration seen, c =>
      if c = '>' ∧ inComment seen = false then (.data, none)
      else (.declaration (seen ++ [c]), none)
  | .tagName tag, c =>
      if isSpace c ∨ c = '/' then (.beforeAttribute tag, none)
      else if c = '>' then (.data, some tag)
      else (.tagName { tag with name := tag.name ++ [c.toLower] }, none)
  | .beforeAttribute tag, c =>
      if isSpace c ∨ c = '/' then (.beforeAttribute tag, none)
      else if c = '>' then (.data, some tag)
      else (.attributeName tag [c.toLower], none)
  | .attributeName tag name, c =>
      if isSpace c then (.afterAttributeName (tag.addAttribute name), none)
      else if c = '/' then (.beforeAttribute (tag.addAttribute name), none)
      else if c = '=' then (.beforeValue (tag.addAttribute name), none)
      else if c = '>' then (.data, some (tag.addAttribute name))
      else (.attributeName tag (name ++ [c.toLower]), none)
  | .afterAttributeName tag, c =>
      if isSpace c then (.afterAttributeName tag, none)
      else if c = '/' then (.beforeAttribute tag, none)
      else if c = '=' then (.beforeValue tag, none)
      else if c = '>' then (.data, some tag)
      else (.attributeName tag [c.toLower], none)
  | .beforeValue tag, c =>
      if isSpace c then (.beforeValue tag, none)
      else if c = '"' ∨ c = '\'' then (.quoted tag c, none)
      else if c = '>' then (.data, some tag)
      else (.unquoted tag, none)
  | .quoted tag quote, c => (if c = quote then .beforeAttribute tag else .quoted tag quote, none)
  | .unquoted tag, c =>
      if isSpace c then (.beforeAttribute tag, none)
      else if c = '>' then (.data, some tag)
      else (.unquoted tag, none)

def scan : State → List Char → State × List Tag
  | state, [] => (state, [])
  | state, c :: rest =>
      let next := step state c
      let later := scan next.1 rest
      (later.1, next.2.toList ++ later.2)

def tags (text : String) : List Tag :=
  (scan .data text.toList).2

def Reads (state : State) (text : String) (next : State) (found : List Tag) : Prop :=
  scan state text.toList = (next, found)

instance (state : State) (text : String) (next : State) (found : List Tag) :
    Decidable (Reads state text next found) :=
  inferInstanceAs (Decidable (_ = _))

theorem scan_append (state : State) (first second : List Char) :
    scan state (first ++ second) =
      ((scan (scan state first).1 second).1,
        (scan state first).2 ++ (scan (scan state first).1 second).2) := by
  induction first generalizing state with
  | nil => rfl
  | cons c rest ih => simp only [List.cons_append, scan, ih, List.append_assoc]

theorem Reads.append {state middle next : State} {first second : String}
    {found later : List Tag} (reads : Reads state first middle found)
    (then' : Reads middle second next later) :
    Reads state (first ++ second) next (found ++ later) := by
  unfold Reads at *
  rw [String.toList_append, scan_append, reads, then']

theorem Reads.tags {text : String} {next : State} {found : List Tag}
    (reads : Reads .data text next found) : tags text = found := by
  rw [Markup.tags, reads]

-- Character data without `<` holds no tag, whatever else is in it.
theorem reads_data {text : String} (noTag : '<' ∉ text.toList) : Reads .data text .data [] := by
  unfold Reads
  generalize text.toList = chars at noTag
  induction chars with
  | nil => rfl
  | cons c rest ih =>
    have other : ¬ c = '<' := fun same => noTag (by simp [same])
    have later := ih fun member => noTag (List.mem_cons_of_mem _ member)
    simp [scan, step, other, later]

theorem reads_quoted {text : String} {quote : Char} (inside : quote ∉ text.toList) (tag : Tag) :
    Reads (.quoted tag quote) text (.quoted tag quote) [] := by
  unfold Reads
  generalize text.toList = chars at inside
  induction chars with
  | nil => rfl
  | cons c rest ih =>
    have other : ¬ c = quote := fun same => inside (by simp [same])
    have later := ih fun member => inside (List.mem_cons_of_mem _ member)
    simp [scan, step, other, later]

theorem Reads.ofList {state next : State} {chars : List Char} {found : List Tag}
    (scanned : scan state chars = (next, found)) :
    Reads state (String.ofList chars) next found := by
  rw [Reads, String.toList_ofList, scanned]

-- The text ends outside of any tag.
def Complete (text : String) : Prop :=
  Reads .data text .data (tags text)

theorem Complete.ofList {chars : List Char} (ends : (scan .data chars).1 = .data) :
    Complete (String.ofList chars) := by
  rw [Complete, Reads, tags, String.toList_ofList]
  exact Prod.ext ends rfl

theorem Reads.complete {text : String} {found : List Tag} (reads : Reads .data text .data found) :
    Complete text := by
  rw [Complete, reads.tags]
  exact reads

theorem Complete.append {first second : String} (complete : Complete first)
    (complete' : Complete second) : Complete (first ++ second) :=
  (Reads.append complete complete').complete

theorem tags_append {first : String} (complete : Complete first) (second : String) :
    tags (first ++ second) = tags first ++ tags second := by
  have reads : Reads .data second (scan .data second.toList).1 (tags second) := rfl
  exact (Reads.append complete reads).tags

theorem mem_tags_append {first : String} {tag : Tag} (member : tag ∈ tags first)
    (second : String) : tag ∈ tags (first ++ second) := by
  rw [tags, String.toList_append, scan_append]
  exact List.mem_append_left _ member

-- Both are complete and have the same tags with the same attribute names.
def Alike (first second : String) : Prop :=
  ∃ found, Reads .data first .data found ∧ Reads .data second .data found

theorem Complete.alike {text : String} (complete : Complete text) : Alike text text :=
  ⟨tags text, complete, complete⟩

theorem alike_data {first second : String} (noTag : '<' ∉ first.toList)
    (noTag' : '<' ∉ second.toList) : Alike first second :=
  ⟨[], reads_data noTag, reads_data noTag'⟩

theorem Alike.append {first second first' second' : String} (alike : Alike first second)
    (alike' : Alike first' second') : Alike (first ++ first') (second ++ second') := by
  obtain ⟨found, reads, reads'⟩ := alike
  obtain ⟨later, readsLater, readsLater'⟩ := alike'
  exact ⟨found ++ later, reads.append readsLater, reads'.append readsLater'⟩

theorem Alike.tags {first second : String} (alike : Alike first second) :
    Markup.tags first = Markup.tags second := by
  obtain ⟨found, reads, reads'⟩ := alike
  rw [reads.tags, reads'.tags]

-- How many times the text opens markup, or tries to.
def opens (text : String) : Nat :=
  text.toList.count '<'

theorem opens_append (first second : String) :
    opens (first ++ second) = opens first + opens second := by
  rw [opens, String.toList_append, List.count_append]
  rfl

theorem opens_eq_zero {text : String} : opens text = 0 ↔ '<' ∉ text.toList :=
  List.count_eq_zero

example : tags "a < b <A Href=x/y title='<i>'>c<!-- <p> --></a>" =
    [⟨false, ['a'], ["href".toList, "title".toList]⟩, ⟨true, ['a'], []⟩] :=
  Reads.tags (.ofList rfl)

end Markup
