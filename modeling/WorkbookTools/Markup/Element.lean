import WorkbookTools.Markup.Token

/-!
# Elements

An element has a name and attributes. Attributes of a special form bind prefixes to namespaces, for
the element itself and for all that it holds. Every other prefix has to be bound, and of two
attributes with one name the second is a fault.
-/

namespace WorkbookTools.Markup

/-- A fault, with what is left of the text where it lies. -/
structure Failure where
  kind : FaultKind
  rest : List Char
  deriving DecidableEq, Repr

/-- Why a token that begins at a text cannot be read. -/
def Stop.failure (start : List Char) : Stop → Failure
  | fault kind rest => ⟨kind, rest⟩
  | unfinished => ⟨.unclosedToken, start⟩

/-- Reads a token that begins at a text. -/
def beginningAt {α : Type} (start : List Char) (x : Except Stop α) : Except Failure α :=
  x.mapError (·.failure start)

/-! ## Values -/

/-- The value of an attribute up to its quote. A line end or a tab counts as a blank, and references
stand for their characters. The fault of a number lies at the reference, any other one at the tag.
The first number says how many characters are passed over. -/
def valueOf (tag : List Char) (quote : Char) : Nat → List Char → Except Failure (List Char)
  | _, [] => .ok []
  | skipped + 1, _ :: rest => valueOf tag quote skipped rest
  | 0, c :: rest =>
    if c = quote then .ok []
    else if c = '&' then
      match scanReference rest with
      | .error e => .error (e.failure (c :: rest))
      | .ok (reference, after) =>
        match reference.char with
        | .error kind => .error ⟨kind, if kind = .invalidNumber then c :: rest else tag⟩
        | .ok d => (valueOf tag quote (rest.length - after.length) rest).map (d :: ·)
    else
      let isPair := c = '\r' ∧ rest.head? = some '\n'
      (valueOf tag quote (if isPair then 1 else 0) rest).map
        ((if isBlank c then ' ' else c) :: ·)

/-! ## Namespaces -/

/-- The namespaces that prefixes stand for, the last binding first; without a prefix the default one
is meant. -/
abbrev Scope := List (Option (List Char) × List Char)

def languagePrefix : List Char := "xml".toList

/-- The prefix of bindings, which is also the name of the binding of the default namespace. -/
def bindingPrefix : List Char := "xmlns".toList

def languageNamespace : List Char := "http://www.w3.org/XML/1998/namespace".toList

def bindingNamespace : List Char := "http://www.w3.org/2000/xmlns/".toList

/-- What is bound at the beginning. -/
def Scope.initial : Scope := [(some languagePrefix, languageNamespace)]

def Name.binds? (n : Name) : Option (Option (List Char)) :=
  if n.qualifier = some bindingPrefix then some (some n.base)
  else if n.qualifier = none ∧ n.base = bindingPrefix then some none
  else none

/-- Binds a prefix to a namespace. -/
def Scope.bind (scope : Scope) (bound : Option (List Char)) (space : List Char) :
    Except FaultKind Scope :=
  if space = [] ∧ bound.isSome then .error .emptyBinding
  else if bound = some bindingPrefix then .error .reservedBinding
  else if '}' ∈ space then .error .unexpectedToken
  else if bound = some languagePrefix ∧ space ≠ languageNamespace then .error .reservedPrefix
  else if bound ≠ some languagePrefix ∧ space ∈ [languageNamespace, bindingNamespace] then
    .error .reservedNamespace
  else .ok ((bound, space) :: scope)

/-- The namespace of a prefix. -/
def Scope.space? (scope : Scope) (bound : List Char) : Option (List Char) :=
  scope.lookup (some bound)

/-! ## From tags to elements -/

/-- An opened element: its depth, its name without prefix, and its attributes without prefix. -/
structure Element where
  depth : Nat
  name : String
  attributes : List (String × String)
  deriving DecidableEq, Repr

/-- The attributes of a tag with their values, and the scope after their bindings. -/
def valuesOf (tag : List Char) (scope : Scope) (before : List Name) :
    List Attribute → Except Failure (List (Name × List Char) × Scope)
  | [] => .ok ([], scope)
  | a :: others => do
    if a.name ∈ before then throw ⟨.repeatedAttribute, a.start⟩
    let value ← valueOf tag a.quote 0 a.value
    match a.name.binds? with
    | some bound =>
      let scope ← (scope.bind bound value).mapError (⟨·, tag⟩)
      valuesOf tag scope (a.name :: before) others
    | none =>
      let (values, scope) ← valuesOf tag scope (a.name :: before) others
      pure ((a.name, value) :: values, scope)

/-- The fault of the prefixes of names: one that is not bound, or a name that stands for the same as
one before. -/
def prefixFault? (scope : Scope) (before : List (List Char × List Char)) :
    List Name → Option FaultKind
  | [] => none
  | n :: others =>
    match n.qualifier with
    | none => prefixFault? scope before others
    | some q =>
      match scope.space? q with
      | none => some .unboundPrefix
      | some space =>
        if (space, n.base) ∈ before then some .repeatedAttribute
        else prefixFault? scope ((space, n.base) :: before) others

/-- The element that a tag opens at a depth, and the scope for what it holds. The tag begins at the
given text. -/
def Tag.element (t : Tag) (start : List Char) (depth : Nat) (scope : Scope) :
    Except Failure (Element × Scope) := do
  let (values, scope) ← valuesOf start scope [] t.attributes
  let fault := prefixFault? scope [] (values.map (·.1)) <|> prefixFault? scope [] [t.name]
  match fault with
  | some kind => throw ⟨kind, start⟩
  | none =>
    let plain := values.filterMap fun (name, value) =>
      if name.qualifier = none then some (String.ofList name.base, String.ofList value) else none
    pure (⟨depth, String.ofList t.name.base, plain⟩, scope)

end WorkbookTools.Markup
