import Bamep.Library.Text
import Mathlib.Data.List.TakeWhile

/-! Two grammars of one text: the URL parser of browsers, for the schemes it calls special, and the generic syntax of
RFC 3986. The first repairs what it reads; the second only accepts or refuses. -/
namespace Url

inductive ParseError where
  | emptyHost | idnaError | invalidPort | invalidIpv4Address | invalidIpv6Address | invalidDomainCharacter
  | relativeUrlWithoutBase | overflow
  deriving DecidableEq, Repr

def ParseError.display : ParseError → String
  | .emptyHost => "empty host"
  | .idnaError => "invalid international domain name"
  | .invalidPort => "invalid port number"
  | .invalidIpv4Address => "invalid IPv4 address"
  | .invalidIpv6Address => "invalid IPv6 address"
  | .invalidDomainCharacter => "invalid domain character"
  | .relativeUrlWithoutBase => "relative URL without a base"
  | .overflow => "URLs more than 4 GB are not supported"

/- User info is kept as written, and the host as it is written out again. -/
structure Parsed where
  scheme : List Char
  username : List Char
  password : Option (List Char)
  host : Option (List Char)
  port : Option Nat
  query : Option (List Char)
  fragment : Option (List Char)
  deriving DecidableEq, Repr

def defaultPort (scheme : List Char) : Option Nat :=
  if scheme = "http".toList || scheme = "ws".toList then some 80
  else if scheme = "https".toList || scheme = "wss".toList then some 443
  else if scheme = "ftp".toList then some 21
  else none

def Parsed.portOrKnownDefault (url : Parsed) : Option Nat := url.port.orElse fun _ => defaultPort url.scheme

section Browser

-- Controls and spaces at both ends are dropped, tabs and line ends everywhere.
def trim (text : List Char) : List Char :=
  ((text.dropWhile (·.toNat ≤ 0x20)).reverse.dropWhile (·.toNat ≤ 0x20)).reverse.filter fun c =>
    c ≠ '\t' && c ≠ '\n' && c ≠ '\r'

def schemeChar (c : Char) : Bool := c.isAlphanum || c = '+' || c = '-' || c = '.'

def scheme (text : List Char) : Option (List Char × List Char) :=
  match text.dropWhile schemeChar with
  | ':' :: rest =>
    if text.head?.any Char.isAlpha then some ((text.takeWhile schemeChar).map Char.toLower,rest) else none
  | _ => none

def slash (c : Char) : Bool := c = '/' || c = '\\'

def authorityEnd (c : Char) : Bool := slash c || c = '?' || c = '#'

-- What stands before the last `@`, and what follows it.
def splitUserinfo (authority : List Char) : Option (List Char) × List Char :=
  if authority.contains '@' then
    (some ((authority.reverse.dropWhile (· ≠ '@')).drop 1).reverse,(authority.reverse.takeWhile (· ≠ '@')).reverse)
  else (none,authority)

-- The first colon outside brackets ends the host.
def splitPort : Bool → List Char → List Char × Option (List Char)
  | _, [] => ([],none)
  | inside, c :: rest =>
    if c = ':' && !inside then ([],some rest)
    else
      let (host,port) := splitPort (if c = '[' then true else if c = ']' then false else inside) rest
      (c :: host,port)

def parsePort (scheme : List Char) (text : Option (List Char)) : Except ParseError (Option Nat) :=
  match text with
  | none | some [] => .ok none
  | some digits =>
    let number := Nat.ofDigitChars 10 digits 0
    if digits.all Char.isDigit && number < 2 ^ 16 then .ok (if defaultPort scheme = some number then none else some number)
    else .error .invalidPort

def parseAuthority (hosts : List Char → Except ParseError (List Char)) (scheme rest : List Char) :
    Except ParseError Parsed := do
  -- Any number of slashes, none included, starts the authority.
  let rest := rest.dropWhile slash
  let after := rest.dropWhile (!authorityEnd ·)
  let (userinfo,hostPort) := splitUserinfo (rest.takeWhile (!authorityEnd ·))
  let (host,port) := splitPort false hostPort
  if host = [] then .error .emptyHost
  let host ← hosts host
  let port ← parsePort scheme port
  let password := (((userinfo.getD []).dropWhile (· ≠ ':')).drop 1)
  .ok {
    scheme, port
    host := some host
    username := (userinfo.getD []).takeWhile (· ≠ ':')
    password := if password = [] then none else some password
    query := part '?' (after.takeWhile (· ≠ '#'))
    fragment := part '#' after
  }
where
  part (mark : Char) (text : List Char) : Option (List Char) :=
    if text.contains mark then some ((text.dropWhile (· ≠ mark)).drop 1) else none

/- `hosts` reads a host (a domain, with its international and percent-encoded characters, or an address), and `others`
the text of a scheme that is not special. -/
def parse (hosts : List Char → Except ParseError (List Char)) (others : List Char → Except ParseError Parsed)
    (text : List Char) : Except ParseError Parsed :=
  match scheme (trim text) with
  | none => .error .relativeUrlWithoutBase
  | some (name,rest) =>
    if (defaultPort name).isSome then parseAuthority hosts name rest
    else (others (trim text)).map fun url => { url with scheme := name }

end Browser

section Generic

def hexDigit (c : Char) : Bool := c.isDigit || ('a' ≤ c && c ≤ 'f') || ('A' ≤ c && c ≤ 'F')

def unreserved (c : Char) : Bool := c.isAlphanum || "-._~".toList.contains c

def subDelim (c : Char) : Bool := "!$&'()*+,;=".toList.contains c

def regChar (c : Char) : Bool := unreserved c || subDelim c

-- Characters of the set and percent-encoded octets; `pending` hexadecimal digits are still due.
def encodedFrom (plain : Char → Bool) : Nat → List Char → Bool
  | pending, [] => pending = 0
  | 0, c :: rest => if c = '%' then encodedFrom plain 2 rest else plain c && encodedFrom plain 0 rest
  | pending + 1, c :: rest => hexDigit c && encodedFrom plain pending rest

def encoded (plain : Char → Bool) (text : List Char) : Bool := encodedFrom plain 0 text

structure Authority where
  text : List Char
  host : List Char
  port : Option (List Char)
  deriving DecidableEq, Repr

structure Uri where
  scheme : List Char
  authority : Option Authority
  path : List Char
  query : Option (List Char)
  deriving DecidableEq, Repr

def portAfter : List Char → Option (Option (List Char))
  | [] => some none
  | c :: digits => if c = ':' && digits.all Char.isDigit then some (some digits) else none

/- The host of an IP literal is named with its brackets; what is inside is only checked by its characters. -/
def parseHostPort (text : List Char) : Option (List Char × Option (List Char)) :=
  if text.head? = some '[' then
    let literal := (text.drop 1).takeWhile (· ≠ ']')
    if text.contains ']' && literal ≠ [] && literal.all (fun c => hexDigit c || c = ':' || c = '.') then
      (portAfter (text.drop (literal.length + 2))).map fun port => ('[' :: literal ++ [']'],port)
    else none
  else
    let host := text.takeWhile (· ≠ ':')
    if encoded regChar host then (portAfter (text.dropWhile (· ≠ ':'))).map fun port => (host,port) else none

def parseUriAuthority (text : List Char) : Option Authority :=
  let (userinfo,hostPort) := splitUserinfo text
  if encoded (fun c => regChar c || c = ':') (userinfo.getD []) then
    (parseHostPort hostPort).map fun (host,port) => ⟨text,host,port⟩
  else none

def parsePath (name : List Char) (authority : Option Authority) (text : List Char) : Option Uri :=
  let pathChar := fun c => regChar c || c = ':' || c = '@' || c = '/'
  let path := text.takeWhile (· ≠ '?')
  let query := text.dropWhile (· ≠ '?')
  if encoded pathChar path && encoded (fun c => pathChar c || c = '?') query then
    some ⟨name,authority,path,if query = [] then none else some (query.drop 1)⟩
  else none

-- A fragment is read and not kept.
def parseUri (text : List Char) : Option Uri :=
  match scheme (text.takeWhile (· ≠ '#')) with
  | none => none
  | some (name,'/' :: '/' :: rest) =>
    (parseUriAuthority (rest.takeWhile fun c => c ≠ '/' && c ≠ '?')).bind fun authority =>
      parsePath name (some authority) (rest.dropWhile fun c => c ≠ '/' && c ≠ '?')
  | some (name,rest) => parsePath name none rest

def Authority.portU16 (authority : Authority) : Option Nat := authority.port.bind (Text.parseUnsigned (2 ^ 16))

end Generic

/- A host of plain characters with an optional port, as both grammars read it. -/
section Agreement
variable {host : List Char} {port : Option (List Char)}

def hostPort (host : List Char) (port : Option (List Char)) : List Char := host ++ port.elim [] (':' :: ·)

theorem hostPortOf (text : List Char) : ∃ host port, text = hostPort host port ∧ ∀ c ∈ host, c ≠ ':' := by
  induction text with
  | nil => exact ⟨[],none,rfl,by simp⟩
  | cons c text ih =>
    by_cases colon : c = ':'
    · exact ⟨[],some text,by rw [colon]; rfl,by simp⟩
    · obtain ⟨host,port,rfl,apart⟩ := ih
      exact ⟨c :: host,port,rfl,by simpa [colon] using apart⟩

theorem trimPlain {text} (plain : ∀ c ∈ text, 0x20 < c.toNat) : trim text = text := by
  have kept : ∀ {l : List Char}, (∀ c ∈ l, 0x20 < c.toNat) → l.dropWhile (·.toNat ≤ 0x20) = l := by
    intro l large
    cases l with
    | nil => rfl
    | cons c l => exact List.dropWhile_cons_of_neg (by simpa using large c List.mem_cons_self)
  unfold trim
  rw [kept plain,kept (by simpa using plain),List.reverse_reverse]
  refine List.filter_eq_self.mpr fun c mem => ?_
  have large := plain c mem
  simp only [ne_eq,Bool.and_eq_true,decide_eq_true_eq]
  refine ⟨⟨?_,?_⟩,?_⟩ <;> rintro rfl <;> revert large <;> decide

theorem splitPortPlain (plain : ∀ c ∈ host, c ≠ ':' ∧ c ≠ '[' ∧ c ≠ ']') :
    splitPort false (hostPort host port) = (host,port) := by
  induction host with
  | nil => cases port <;> simp [hostPort,splitPort]
  | cons c host ih =>
    have here := plain c List.mem_cons_self
    have rest := ih fun d mem => plain d (List.mem_cons_of_mem _ mem)
    unfold hostPort at rest ⊢
    simp only [List.cons_append,splitPort,here.1,here.2.1,here.2.2,decide_false,Bool.false_and,Bool.false_eq_true,if_false,
      rest]

theorem regCharVisible {c} (plain : regChar c = true) : 0x20 < c.toNat := by
  by_contra small
  have none : (List.range 33).all (fun n => !regChar (.ofNat n)) = true := by decide
  have here := List.all_eq_true.mp none c.toNat (List.mem_range.mpr (by omega))
  rw [Char.ofNat_toNat,plain] at here
  cases here

theorem regCharApart {c} (plain : regChar c = true) : c ∉ ":[]@/\\?#%".toList := by
  intro mem
  simp only [String.reduceToList,List.mem_cons,List.not_mem_nil,or_false] at mem
  rcases mem with rfl | rfl | rfl | rfl | rfl | rfl | rfl | rfl | rfl <;> revert plain <;> decide

-- What stands in a host with its port when neither brackets nor user info are written.
def originChar (c : Char) : Bool := regChar c || c = ':'

theorem originCharVisible {c} (plain : originChar c = true) : 0x20 < c.toNat := by
  simp only [originChar,Bool.or_eq_true,decide_eq_true_eq] at plain
  rcases plain with reg | rfl
  · exact regCharVisible reg
  · decide

theorem originCharApart {c} (plain : originChar c = true) : c ∉ "[]@/\\?#%".toList := by
  simp only [originChar,Bool.or_eq_true,decide_eq_true_eq] at plain
  rcases plain with reg | rfl
  · exact fun mem => regCharApart reg (List.mem_cons_of_mem _ mem)
  · decide

variable {name : List Char} {hosts : List Char → Except ParseError (List Char)}
  {others : List Char → Except ParseError Parsed} {url : Parsed}

theorem splitUserinfoPlain {text} (plain : ∀ c ∈ text, c ≠ '@') : splitUserinfo text = (none,text) := by
  refine if_neg fun mem => ?_
  exact plain '@' (by simpa using mem) rfl

theorem takeAll {p} {text : List Char} (all : ∀ c ∈ text, p c = true) :
    text.takeWhile p = text ∧ text.dropWhile p = [] :=
  ⟨List.takeWhile_eq_self_iff.mpr all,List.dropWhile_eq_nil_iff.mpr all⟩

/- The port of a URL that was accepted is the port as it is written. -/
theorem parseAuthorityPlain (plain : ∀ c ∈ hostPort host port, originChar c = true) (apart : ∀ c ∈ host, c ≠ ':')
    (accepted : parseAuthority hosts name ('/' :: '/' :: hostPort host port) = .ok url) :
    host ≠ [] ∧ url.scheme = name ∧ parsePort name port = .ok url.port := by
  have outside : ∀ c ∈ hostPort host port, c ∉ "[]@/\\?#%".toList := fun c mem => originCharApart (plain c mem)
  simp only [String.reduceToList,List.mem_cons,List.not_mem_nil,or_false,not_or] at outside
  have noSlash : (hostPort host port).dropWhile slash = hostPort host port := by
    cases text : hostPort host port with
    | nil => rfl
    | cons c rest =>
      have here := outside c (by simp [text])
      exact List.dropWhile_cons_of_neg (by simp [slash,here])
  have whole := @takeAll (!authorityEnd ·) (hostPort host port) fun c mem => by
    have here := outside c mem
    simp [authorityEnd,slash,here]
  have start : ('/' :: '/' :: hostPort host port).dropWhile slash = hostPort host port := noSlash
  have split := @splitPortPlain host port fun c mem => by
    have here := outside c (List.mem_append_left _ mem)
    exact ⟨apart c mem,here.1,here.2.1⟩
  simp only [parseAuthority,start,whole,splitUserinfoPlain fun c mem => (outside c mem).2.2.1,split] at accepted
  split at accepted
  · cases accepted
  · rename_i nonempty
    cases named : hosts host with
    | error e => rw [named] at accepted; cases accepted
    | ok address =>
      cases read : parsePort name port with
      | error e => rw [named,read] at accepted; cases accepted
      | ok number =>
        rw [named,read] at accepted
        cases accepted
        exact ⟨nonempty,rfl,rfl⟩

-- A text of the form both grammars are given.
def originText (host : List Char) (port : Option (List Char)) : List Char := "https://".toList ++ hostPort host port

theorem originTextScheme (host : List Char) (port : Option (List Char)) :
    scheme (originText host port) = some ("https".toList,'/' :: '/' :: hostPort host port) := by
  rfl

theorem originTextPlain {p} (start : "https://".toList.all p = true)
    (plain : ∀ c ∈ hostPort host port, p c = true) : ∀ c ∈ originText host port, p c = true := by
  intro c mem
  rcases List.mem_append.mp mem with mem | mem
  · exact List.all_eq_true.mp start c mem
  · exact plain c mem

theorem parsePlain (plain : ∀ c ∈ hostPort host port, originChar c = true) (apart : ∀ c ∈ host, c ≠ ':')
    (accepted : parse hosts others (originText host port) = .ok url) :
    host ≠ [] ∧ url.scheme = "https".toList ∧ parsePort "https".toList port = .ok url.port := by
  have visible := @originTextPlain host port (fun c => 0x20 < c.toNat) (by decide) fun c mem =>
    decide_eq_true (originCharVisible (plain c mem))
  have kept : trim (originText host port) = originText host port :=
    trimPlain fun c mem => of_decide_eq_true (visible c mem)
  have special : (defaultPort "https".toList).isSome = true := by decide
  simp only [parse,kept,originTextScheme,special,if_true] at accepted
  exact parseAuthorityPlain plain apart accepted

theorem parsePortDigits {number} (parsed : parsePort name port = .ok number) :
    ∀ digits ∈ port, digits.all Char.isDigit = true := by
  intro digits here
  subst here
  cases digits with
  | nil => rfl
  | cons c digits =>
    simp only [parsePort] at parsed
    split at parsed
    · rename_i read
      exact (Bool.and_eq_true _ _ ▸ read).1
    · cases parsed

/- Both grammars read the same number, and both know the port that is left out. -/
theorem parsePortRead {number known} (default : defaultPort name = some known)
    (parsed : parsePort name port = .ok number) :
    (number.orElse fun _ => defaultPort name) = some ((port.bind (Text.parseUnsigned (2 ^ 16))).getD known) := by
  cases port with
  | none => cases parsed; exact default
  | some digits =>
    cases digits with
    | nil => cases parsed; exact default
    | cons c digits =>
      have all := parsePortDigits parsed (c :: digits) rfl
      have digit : c.isDigit = true := List.all_eq_true.mp all c List.mem_cons_self
      have unsigned : c ≠ '+' := by rintro rfl; cases digit
      simp only [parsePort,all,Bool.true_and,decide_eq_true_eq] at parsed
      split at parsed
      · rename_i small
        have value : Text.parseUnsigned (2 ^ 16) (c :: digits) = some (Nat.ofDigitChars 10 (c :: digits) 0) := by
          simp only [Text.parseUnsigned,List.head?_cons,Option.some.injEq,unsigned,if_false,all,reduceCtorEq,decide_false,
            Bool.not_true,Bool.or_false,Bool.false_eq_true,small,if_true]
        simp only [Option.bind_some,value,Option.getD_some]
        cases parsed
        split
        · rename_i same
          exact same
        · rfl
      · cases parsed

theorem encodedPlain {p text} (plain : ∀ c ∈ text, p c = true ∧ c ≠ '%') :
    encoded p text = true := by
  induction text with
  | nil => rfl
  | cons c text ih =>
    have here := plain c List.mem_cons_self
    simp only [encoded,encodedFrom,here.2,if_false,here.1,Bool.true_and]
    exact ih fun d mem => plain d (List.mem_cons_of_mem _ mem)

theorem splitColon (apart : ∀ c ∈ host, c ≠ ':') :
    (hostPort host port).takeWhile (· ≠ ':') = host ∧
      (hostPort host port).dropWhile (· ≠ ':') = port.elim [] (':' :: ·) := by
  have before : ∀ c ∈ host, decide (c ≠ ':') = true := fun c mem => decide_eq_true (apart c mem)
  rw [hostPort,List.takeWhile_append_of_pos before,List.dropWhile_append_of_pos before]
  cases port <;> simp

theorem parseHostPortPlain (plain : ∀ c ∈ host, regChar c = true)
    (digits : ∀ text ∈ port, text.all Char.isDigit = true) : parseHostPort (hostPort host port) = some (host,port) := by
  have outside : ∀ c ∈ host, c ∉ ":[]@/\\?#%".toList := fun c mem => regCharApart (plain c mem)
  simp only [String.reduceToList,List.mem_cons,List.not_mem_nil,or_false,not_or] at outside
  have bare : (hostPort host port).head? ≠ some '[' := by
    cases host with
    | nil => cases port <;> simp [hostPort]
    | cons c host => simpa [hostPort] using (outside c List.mem_cons_self).2.1
  have split := @splitColon host port fun c mem => (outside c mem).1
  have name : encoded regChar host = true := by
    refine encodedPlain fun c mem => ⟨plain c mem,?_⟩
    have here := outside c mem
    simp [here]
  have after : portAfter (port.elim [] (':' :: ·)) = some port := by
    cases port with
    | none => rfl
    | some text => simp [portAfter,digits text rfl]
  rw [parseHostPort,if_neg bare]
  simp only [split,name,if_true,after,Option.map_some]

theorem parseUriPlain (plain : ∀ c ∈ hostPort host port, originChar c = true) (apart : ∀ c ∈ host, c ≠ ':')
    (digits : ∀ text ∈ port, text.all Char.isDigit = true) : parseUri (originText host port) =
      some ⟨"https".toList,some ⟨hostPort host port,host,port⟩,[],none⟩ := by
  have outside : ∀ c ∈ hostPort host port, c ∉ "[]@/\\?#%".toList := fun c mem => originCharApart (plain c mem)
  simp only [String.reduceToList,List.mem_cons,List.not_mem_nil,or_false,not_or] at outside
  have fragment : (originText host port).takeWhile (· ≠ '#') = originText host port :=
    List.takeWhile_eq_self_iff.mpr (originTextPlain (by decide) fun c mem => by simp [outside c mem])
  have whole := @takeAll (fun c => c ≠ '/' && c ≠ '?') (hostPort host port) fun c mem => by simp [outside c mem]
  have hostPlain : ∀ c ∈ host, regChar c = true := by
    intro c mem
    have here := plain c (List.mem_append_left _ mem)
    simpa [originChar,apart c mem] using here
  have authority : parseUriAuthority (hostPort host port) = some ⟨hostPort host port,host,port⟩ := by
    simp only [parseUriAuthority,splitUserinfoPlain fun c mem => (outside c mem).2.2.1,
      parseHostPortPlain hostPlain digits]
    rfl
  rw [parseUri,fragment,originTextScheme]
  simp only [whole,authority,Option.bind_some]
  rfl

end Agreement
end Url
