import StartPage.Proofs.Text.Digits
import StartPage.Proofs.Url.Percent

/-! What an address is written with once it has been read. Every part is free of the marks that
would end it, and of the characters that would have to be encoded in it; so nothing in front of the
query of a hierarchical address is blank, and nothing in it begins a query or a fragment. -/
namespace StartPage.Url

/-- A character that may stand in front of a query: it is no control and no space, and it begins
neither a query nor a fragment. -/
def isClean (c : Char) : Bool := 0x20 < c.toNat && c ≠ '#' && c ≠ '?'

def Clean (s : List Char) : Prop := ∀ c ∈ s, isClean c = true

namespace Clean

variable {s t : List Char} {c : Char}

theorem nil : Clean [] := nofun

theorem cons (hHead : isClean c = true) (hTail : Clean s) : Clean (c :: s) :=
  List.forall_mem_cons.mpr ⟨hHead, hTail⟩

theorem append (hFront : Clean s) (hBack : Clean t) : Clean (s ++ t) :=
  List.forall_mem_append.mpr ⟨hFront, hBack⟩

end Clean

theorem isClean_of_isWritten {c : Char} (h : Form.isWritten c = true) : isClean c = true :=
  of_isWritten (by decide +kernel) h

theorem isClean_of_ne {c : Char} (hControls : EncodeSet.controls c = false) (hSpace : c ≠ ' ')
    (hFragment : c ≠ '#') (hQuery : c ≠ '?') : isClean c = true := by
  simp only [isClean, Bool.and_eq_true, decide_eq_true_eq]
  exact ⟨⟨visible_of_ne hControls hSpace, hFragment⟩, hQuery⟩

/-- A set that holds the controls and the three characters leaves only clean ones outside. -/
theorem isClean_of_outside {set : Char → Bool} {c : Char} (hOutside : set c = false)
    (hControls : EncodeSet.controls c = true → set c = true) (hSpace : set ' ' = true)
    (hFragment : set '#' = true) (hQuery : set '?' = true) : isClean c = true :=
  isClean_of_ne (outside_of_subset hOutside hControls) (ne_of_outside hOutside hSpace)
    (ne_of_outside hOutside hFragment) (ne_of_outside hOutside hQuery)

theorem isClean_of_path {c : Char} (h : EncodeSet.path c = false) : isClean c = true := by
  refine isClean_of_outside h (fun hInside => ?_) rfl rfl rfl
  simp [EncodeSet.path, EncodeSet.fragment, hInside]

theorem clean_path (s : List Char) : Clean (percentEncode EncodeSet.path s) :=
  forall_mem_percentEncode (fun _ => isClean_of_isWritten) fun _ _ => isClean_of_path

theorem clean_userinfo (s : List Char) : Clean (percentEncode EncodeSet.userinfo s) := by
  refine forall_mem_percentEncode (fun _ => isClean_of_isWritten) fun c _ h => isClean_of_path ?_
  exact outside_of_subset h fun hInside => by simp [EncodeSet.userinfo, hInside]

theorem isClean_of_isDigit {c : Char} (h : Text.isDigit c = true) : isClean c = true := by
  apply isClean_of_isWritten
  simp [Form.isWritten, Form.isPlain, h]

theorem clean_digits (n : Nat) : Clean (Text.digits n) :=
  fun _ hMem => isClean_of_isDigit (Text.isDigit_of_mem_digits hMem)

theorem isClean_digitChar {d : Nat} (h : d < 16) : isClean (Text.digitChar d) = true :=
  (by decide : ∀ d : Fin 16, isClean (Text.digitChar d) = true) ⟨d, h⟩

theorem clean_hexDigits (n : Nat) : Clean (Text.hexDigits n) := by
  induction n using Text.hexDigits.induct with
  | case1 n hLess =>
      rw [Text.hexDigits, if_pos hLess]
      exact .cons (isClean_digitChar hLess) .nil
  | case2 n hLess ih =>
      rw [Text.hexDigits, if_neg hLess]
      exact ih.append (.cons (isClean_digitChar (Nat.mod_lt _ (by decide))) .nil)

theorem clean_intercalate {c : Char} (h : isClean c = true) {parts : List (List Char)}
    (hParts : ∀ part ∈ parts, Clean part) : Clean ([c].intercalate parts) := by
  induction parts with
  | nil => exact .nil
  | cons part parts ih =>
      rw [List.forall_mem_cons] at hParts
      cases parts with
      | nil => simpa [List.intercalate] using hParts.1
      | cons next parts =>
          rw [List.intercalate_cons_cons]
          exact (hParts.1.append (.cons h .nil)).append (ih hParts.2)

namespace Host

/-- A host is clean if its name is; an address in numbers always is. -/
theorem clean_ipv4 (address : Nat) : Clean (chars (.ipv4 address)) := by
  refine clean_intercalate (by decide) ?_
  simp only [List.forall_mem_cons]
  exact ⟨clean_digits _, clean_digits _, clean_digits _, clean_digits _, nofun⟩

theorem clean_joined (pieces : List Nat) : Clean (Ipv6.joined pieces) := by
  refine clean_intercalate (by decide) fun part hMem => ?_
  obtain ⟨n, -, rfl⟩ := List.mem_map.mp hMem
  exact clean_hexDigits n

theorem clean_ipv6 (pieces : List Nat) : Clean (chars (.ipv6 pieces)) := by
  have hBody : Clean (Ipv6.chars pieces) := by
    unfold Ipv6.chars
    dsimp only
    split
    · exact clean_joined pieces
    · exact (clean_joined _).append (.cons (by decide) (.cons (by decide) (clean_joined _)))
  exact .append (.cons (by decide) hBody) (.cons (by decide) .nil)

theorem clean_of_allowed {domain : List Char} (h : domain.any Domain.isForbidden = false) :
    Clean domain := by
  intro c hMem
  have hOutside : Domain.isForbidden c = false :=
    eq_false_of_ne_true (List.any_eq_false.mp h c hMem)
  refine isClean_of_outside hOutside (fun hInside => ?_) rfl rfl rfl
  simp [Domain.isForbidden, hInside]

/-- However a domain name has been written in ASCII, its host is clean as long as it holds no
forbidden character. -/
theorem clean_of_ofAscii {domain : List Char} (hAllowed : domain.any Domain.isForbidden = false)
    {host : Host} (h : ofAscii domain = .ok host) : Clean host.chars := by
  unfold ofAscii at h
  split at h
  · cases h
  · split at h
    · split at h
      · cases h
        exact clean_ipv4 _
      · cases h
    · cases h
      exact clean_of_allowed hAllowed

theorem clean_of_brackets {s : List Char} {host : Host} (h : ofBrackets s = .ok host) :
    Clean host.chars := by
  unfold ofBrackets at h
  split at h
  · split at h
    · cases h
      exact clean_ipv6 _
    · cases h
  · cases h

theorem clean_of_ofDomain {s : List Char} {host : Host} (h : ofDomain s = .ok host) :
    Clean host.chars := by
  unfold ofDomain at h
  split at h
  · exact clean_of_brackets h
  · split at h
    · cases h
    · next domain hDomain =>
        rw [Option.bind_eq_bind, Option.bind_eq_some_iff] at hDomain
        obtain ⟨name, -, hAscii⟩ := hDomain
        exact clean_of_ofAscii (Domain.not_isForbidden_of_toAscii? hAscii) h

theorem clean_of_ofPlain {s : List Char} {host : Host} (h : ofPlain s = .ok host) :
    Clean host.chars := by
  unfold ofPlain at h
  split at h
  · exact clean_of_brackets h
  · split at h
    · cases h
    · next hAllowed =>
        cases h
        refine forall_mem_percentEncode (fun _ => isClean_of_isWritten) fun c hMem hControls => ?_
        have hOutside : isForbidden c = false :=
          eq_false_of_ne_true fun hInside => hAllowed (List.any_eq_true.mpr ⟨c, hMem, hInside⟩)
        exact isClean_of_ne hControls (ne_of_outside hOutside rfl) (ne_of_outside hOutside rfl)
          (ne_of_outside hOutside rfl)

end Host

/-- If the reader gives anything, it is as `p` says. -/
def Gives {α : Type} (x : Except ParseError α) (p : α → Prop) : Prop := ∀ a, x = .ok a → p a

namespace Gives

variable {α β : Type} {x : Except ParseError α} {f : α → Except ParseError β}
    {p : α → Prop} {q : β → Prop}

theorem ok {a : α} (h : p a) : Gives (.ok a) p := by
  rintro _ ⟨⟩
  exact h

theorem pure {a : α} (h : p a) : Gives (pure a) p := ok h

theorem error {e : ParseError} : Gives (.error e) p := nofun

theorem throw {e : ParseError} : Gives (throw e) p := error

theorem bind (hFirst : Gives x p) (hNext : ∀ a, p a → Gives (f a) q) : Gives (x >>= f) q := by
  intro b h
  cases x with
  | error e => cases h
  | ok a => exact hNext a (hFirst a rfl) b h

end Gives

/-- The parts of an authority are clean, each by itself. -/
structure Authority.Clean (a : Authority) : Prop where
  username : Url.Clean a.username
  password : Url.Clean a.password
  host : Url.Clean a.host.chars

theorem Authority.Clean.chars {a : Authority} (h : a.Clean) : Url.Clean a.chars := by
  have hUserinfo : Url.Clean a.userinfo := by
    refine h.username.append ?_
    split
    · exact .nil
    · exact .cons (by decide) h.password
  refine .append (.append ?_ h.host) ?_
  · split
    · exact .nil
    · exact hUserinfo.append (.cons (by decide) .nil)
  · split
    · exact .nil
    · exact .cons (by decide) (clean_digits _)

/-- The host that a text names in some kind of scheme. -/
def Host.ofText (kind : SchemeKind) (text : List Char) : Except ParseError Host :=
  if kind.isSpecial then if text = [] then .error .emptyHost else ofDomain text else ofPlain text

theorem Host.clean_of_ofText {kind : SchemeKind} {text : List Char} {host : Host}
    (h : ofText kind text = .ok host) : Clean host.chars := by
  unfold ofText at h
  split at h
  · split at h
    · cases h
    · exact clean_of_ofDomain h
  · exact clean_of_ofPlain h

namespace Authority

/-- An authority once its host is known, with what comes behind the host. -/
def complete (kind : SchemeKind) (info : Userinfo) (behind : List Char) (host : Host) :
    Except ParseError (Authority × List Char) := do
  match behind with
  | ':' :: afterColon =>
    if host = .name [] then throw .emptyHost
    let (port, rest) ← port? kind afterColon
    return (⟨info.username, info.password, host, port⟩, rest)
  | rest =>
    if host = .name [] && !(info.username = [] && info.password = []) then throw .emptyHost
    return (⟨info.username, info.password, host, none⟩, rest)

/-- An authority behind its user. -/
def readHost (kind : SchemeKind) (info : Userinfo) (s : List Char) :
    Except ParseError (Authority × List Char) :=
  Host.ofText kind (Host.split kind false s).1 >>= complete kind info (Host.split kind false s).2

/-- Whether the address ends with the authority matters only where there is a sign for a user and
nothing on either side of it. -/
theorem read_eq (kind : SchemeKind) (atEnd : Bool) (s : List Char) :
    Authority.read kind atEnd s =
      let cut := Text.splitLast '@' (s.takeWhile (!kind.isSlash ·))
      let rest := s.dropWhile (!kind.isSlash ·)
      if cut.1 = some [] && cut.2 = [] && !(rest = [] && atEnd) then .error .emptyHost
      else readHost kind (Userinfo.read (cut.1.getD [])) (cut.2 ++ rest) := by
  unfold Authority.read readHost Host.ofText
  dsimp only
  split
  · rfl
  · split
    · split
      · rfl
      · rfl
    · rfl

theorem gives_readHost (kind : SchemeKind) (user password s : List Char) :
    Gives (readHost kind
      ⟨percentEncode EncodeSet.userinfo user, percentEncode EncodeSet.userinfo password⟩ s)
        fun r => r.1.Clean := by
  have hWritten {host : Host} (hHost : Url.Clean host.chars) (port : Option Nat) : Authority.Clean
      ⟨percentEncode EncodeSet.userinfo user,
        percentEncode EncodeSet.userinfo password, host, port⟩ :=
    ⟨clean_userinfo user, clean_userinfo password, hHost⟩
  refine .bind (fun _ => Host.clean_of_ofText) fun host hHost => ?_
  unfold complete
  split
  · next afterColon _ =>
      split
      · exact .error
      · cases port? kind afterColon with
        | error e => exact .error
        | ok r => exact .ok (hWritten hHost r.1)
  · split
    · exact .error
    · exact .ok (hWritten hHost none)

theorem gives_read (kind : SchemeKind) (atEnd : Bool) (s : List Char) :
    Gives (Authority.read kind atEnd s) fun r => r.1.Clean := by
  rw [read_eq]
  dsimp only
  split
  · exact .error
  · exact gives_readHost kind _ _ _

end Authority

namespace Path

theorem clean_join {segments : List (List Char)} (h : ∀ segment ∈ segments, Clean segment) :
    Clean (join segments) := by
  intro c hMem
  obtain ⟨segment, hSegment, hMem⟩ := List.mem_flatMap.mp hMem
  exact Clean.cons (by decide) (h segment hSegment) c hMem

theorem clean_drive {letter : Char} (h : isLetter letter = true) : Clean [letter, ':'] := by
  refine .cons (isClean_of_isWritten ?_) (.cons (by decide) .nil)
  unfold isLetter at h
  simp only [Form.isWritten, Form.isPlain, h, Bool.true_or]

theorem isLetter_of_drive? {segment : List Char} {letter : Char}
    (h : drive? segment = some letter) : isLetter letter = true := by
  unfold drive? at h
  split at h
  · split at h
    · next hDrive =>
        cases h
        exact (Bool.and_eq_true_iff.mp hDrive).1
    · cases h
  · cases h

theorem isLetter_of_cutDrive? {segment behind : List Char} {letter : Char}
    (h : cutDrive? segment = some (letter, behind)) : isLetter letter = true := by
  unfold cutDrive? at h
  split at h
  · cases h
  · split at h
    · dsimp only at h
      split at h
      · next hDrive =>
          cases h
          simp only [Bool.and_eq_true] at hDrive
          exact hDrive.1.1
      · cases h
    · cases h

theorem clean_removeLast {closed : List (List Char)} (h : ∀ segment ∈ closed, Clean segment) :
    ∀ segment ∈ removeLast closed, Clean segment := by
  cases closed with
  | nil => exact h
  | cons last closed =>
      rw [removeLast]
      split
      · exact h
      · exact (List.forall_mem_cons.mp h).2

/-- Every segment of a path is encoded when it is closed, or it is a drive. -/
theorem clean_resolve (kind : SchemeKind) {closed : List (List Char)} (parts : List (List Char))
    (h : ∀ segment ∈ closed, Clean segment) :
    ∀ segment ∈ (resolve kind closed parts).segments, Clean segment := by
  have hLast {closed : List (List Char)} (h : ∀ segment ∈ closed, Clean segment) :
      ∀ segment ∈ closed.reverse ++ [[]], Clean segment := by
    refine List.forall_mem_append.mpr ⟨fun segment hMem => h segment (List.mem_reverse.mp hMem), ?_⟩
    exact List.forall_mem_singleton.mpr .nil
  induction parts generalizing closed with
  | nil => exact fun segment hMem => h segment (List.mem_reverse.mp hMem)
  | cons segment parts ih =>
      unfold resolve
      split
      · next letter behind hCut =>
          refine ih (List.forall_mem_cons.mpr ⟨clean_path behind, ?_⟩)
          exact List.forall_mem_singleton.mpr (clean_drive (isLetter_of_cutDrive? hCut))
      · dsimp only
        split
        · split
          · exact hLast (clean_removeLast h)
          · exact ih (clean_removeLast h)
        · split
          · split
            · exact hLast h
            · exact ih h
          · split
            · next letter hDrive _ =>
                exact ih (List.forall_mem_singleton.mpr (clean_drive (isLetter_of_drive? hDrive)))
            · exact ih (List.forall_mem_cons.mpr ⟨clean_path _, h⟩)

theorem clean_resolveText (kind : SchemeKind) (s : List Char) :
    ∀ segment ∈ (resolveText kind s).segments, Clean segment := clean_resolve kind _ nofun

theorem clean_read (kind : SchemeKind) (s : List Char) : Clean (read kind s) :=
  clean_join (clean_resolveText kind _)

theorem clean_ofFile {r : Resolved} (h : ∀ segment ∈ r.segments, Clean segment) :
    Clean (ofFile r) := by
  refine .cons (by decide) fun c hMem => clean_join h c ?_
  exact (List.dropWhile_sublist _).subset hMem

end Path

theorem head?_percentChar (c : Char) : (percentChar c).head? = some '%' := by
  unfold percentChar Text.Utf8.encodeChar
  dsimp only
  split_ifs <;> rfl

/-- Encoding does not make a slash. -/
theorem exists_of_head?_percentEncode {s : List Char}
    (h : (percentEncode EncodeSet.controls s).head? = some '/') :
    ∃ rest, s = '/' :: rest := by
  cases s with
  | nil => cases h
  | cons c s =>
      rw [percentEncode, List.flatMap_cons, List.head?_append] at h
      split at h
      · rw [head?_percentChar] at h
        cases h
      · cases h
        exact ⟨s, rfl⟩

namespace Front

/-- The front of a hierarchical address is clean. -/
structure Clean (front : Front) : Prop where
  authority : ∀ a, front.authority = some a → a.Clean
  path : (front.authority.isSome || front.path.head? = some '/') = true → Url.Clean front.path

theorem Clean.some {a : Authority} {path : List Char} (hAuthority : a.Clean)
    (hPath : Url.Clean path) :
    Clean ⟨some a, path⟩ where
  authority _ hSame := Option.some.inj hSame ▸ hAuthority
  path _ := hPath

theorem Clean.ofLocalFile (s : List Char) : Clean (ofLocalFile (Path.resolveText .file s)) :=
  .some ⟨.nil, .nil, .nil⟩ (Path.clean_ofFile (Path.clean_resolveText _ _))

theorem gives_ofFile (s : List Char) : Gives (Front.ofFile s) Front.Clean := by
  unfold Front.ofFile
  dsimp only
  split
  · exact .ok (.ofLocalFile _)
  · split
    · exact .ok (.ofLocalFile _)
    · refine .bind (fun _ => Host.clean_of_ofDomain) fun host hHost => ?_
      split
      · exact .ok (.ofLocalFile _)
      · split
        · exact .ok (.some ⟨.nil, .nil, .nil⟩ (Path.clean_ofFile (Path.clean_resolveText _ _)))
        · exact .ok (.some ⟨.nil, .nil, hHost⟩ (Path.clean_ofFile (Path.clean_resolveText _ _)))

theorem gives_read (kind : SchemeKind) (atEnd : Bool) (s : List Char) :
    Gives (Front.read kind atEnd s) Front.Clean := by
  unfold Front.read
  split
  · exact .bind (Authority.gives_read _ _ _) fun r hRead =>
      .pure (.some hRead (Path.clean_read _ _))
  · split
    · exact gives_ofFile _
    · exact .ok (.ofLocalFile _)
  · split
    · refine .bind (Authority.gives_read _ _ _) fun r hRead => .pure (.some hRead ?_)
      split
      · exact .nil
      · exact Path.clean_read _ _
    · exact .ok ⟨nofun, fun _ => Path.clean_read _ _⟩
    · next _ hRoot =>
        refine .ok ⟨nofun, fun hSlash => ?_⟩
        obtain ⟨rest, hSame⟩ := exists_of_head?_percentEncode (by simpa using hSlash)
        exact absurd hSame (hRoot rest)

end Front

theorem isWritten_of_isSchemeChar {c : Char} (h : isSchemeChar c = true) :
    Form.isWritten c = true := by
  unfold isSchemeChar Path.isLetter at h
  unfold Form.isWritten Form.isPlain
  grind

/-- A scheme is clean and ends before its colon. -/
theorem clean_scheme {s scheme rest : List Char} (h : scheme? s = some (scheme, rest)) :
    Clean scheme ∧ ':' ∉ scheme := by
  have hLower (c : Char) (hChar : isSchemeChar c = true) :
      isClean (lowerAscii c) = true ∧ lowerAscii c ≠ ':' := by
    have hAll :
        ('+' :: '%' :: Form.alphabet).all (fun c => isClean (lowerAscii c) && lowerAscii c ≠ ':') =
          true := by
      decide +kernel
    simpa using of_isWritten hAll (isWritten_of_isSchemeChar hChar)
  unfold scheme? at h
  dsimp only at h
  split at h
  · next c cs rest hFront hRest =>
      split at h
      · next hScheme =>
          simp only [Bool.and_eq_true] at hScheme
          cases h
          have hFirst : isSchemeChar c = true := by simp [isSchemeChar, hScheme.1]
          have hChars : ∀ d ∈ c :: cs, isSchemeChar d = true :=
            List.forall_mem_cons.mpr ⟨hFirst, List.all_eq_true.mp hScheme.2⟩
          have hWritten : ∀ d ∈ (c :: cs).map lowerAscii, isClean d = true ∧ d ≠ ':' :=
            List.forall_mem_map.mpr fun d hMem => hLower d (hChars d hMem)
          exact ⟨fun d hMem => (hWritten d hMem).1, fun hMem => (hWritten ':' hMem).2 rfl⟩
      · cases h
  · cases h

/-- How the parts of an address are written. -/
structure Written (u : Url) : Prop where
  scheme : Clean u.scheme ∧ ':' ∉ u.scheme
  front : u.isHierarchical = true → Clean u.frontChars
  query : ∀ q, u.query = some q →
    ∀ c ∈ q, EncodeSet.query (SchemeKind.ofScheme u.scheme).isSpecial c = false
  fragment : ∀ f, u.fragment = some f → ∀ c ∈ f, EncodeSet.fragment c = false

theorem gives_parse (s : List Char) : Gives (parse s) Written := by
  unfold parse
  dsimp only
  split
  · exact .throw
  · next scheme rest hScheme =>
      refine .bind (Front.gives_read _ _ _) fun front hFront => .pure ?_
      have hParts := clean_scheme hScheme
      refine ⟨hParts, fun hHierarchical => hParts.1.append (.cons (by decide) ?_),
        fun q hQuery => ?_, fun f hFragment => ?_⟩
      · have hPath := hFront.path hHierarchical
        dsimp only
        split
        · next a hAuthority =>
            have hChars := (hFront.authority a hAuthority).chars
            exact .cons (by decide) (.cons (by decide) (hChars.append hPath))
        · refine .append ?_ hPath
          split
          · exact .cons (by decide) (.cons (by decide) .nil)
          · exact .nil
      · obtain ⟨raw, -, rfl⟩ := Option.map_eq_some_iff.mp hQuery
        exact outside_percentEncode outside_query_of_isWritten _
      · obtain ⟨raw, -, rfl⟩ := Option.map_eq_some_iff.mp hFragment
        exact outside_percentEncode outside_fragment_of_isWritten _

end StartPage.Url
