import LevelScript.Proofs.Traces
import LevelScript.Proofs.Usage

/-!
Scripts as files.

The listings of an actor's scripts lie in one directory, next to the lists of its animations and
paths.  The name of a listing starts with the offset of the script, and behind it a space, before
anything that comes from a table; neither a hexadecimal digit nor a space is changed when the name
is made safe.  So the offset can be read off the name of the file, whatever the reasons are, and no
file takes the place of another.
-/

namespace LevelScript

/-! ### Hexadecimal digits -/

def isHexDigit (c : Char) : Bool :=
  ('0' ≤ c && c ≤ '9') || ('A' ≤ c && c ≤ 'F')

def hexDigitValue (c : Char) : Nat :=
  if c ≤ '9' then c.toNat - '0'.toNat else c.toNat - 'A'.toNat + 10

/-- The number that hexadecimal digits stand for. -/
def hexValue (digits : List Char) : Nat :=
  digits.foldl (fun n c => 16 * n + hexDigitValue c) 0

theorem hexDigit_digitChar {d : Nat} (h : d < 16) :
    isHexDigit d.digitChar.toUpper = true ∧ hexDigitValue d.digitChar.toUpper = d := by
  have hall : ∀ d : Fin 16, isHexDigit d.val.digitChar.toUpper = true ∧
      hexDigitValue d.val.digitChar.toUpper = d.val := by decide
  exact hall ⟨d, h⟩

theorem hexValue_concat (digits : List Char) (c : Char) :
    hexValue (digits ++ [c]) = 16 * hexValue digits + hexDigitValue c := by
  simp [hexValue]

theorem hexValue_padded (count : Nat) (digits : List Char) :
    hexValue (List.replicate count '0' ++ digits) = hexValue digits := by
  induction count with
  | zero => rfl
  | succ count ih => exact ih

theorem toDigits_hex (n : Nat) :
    hexValue ((Nat.toDigits 16 n).map Char.toUpper) = n ∧
      ∀ c ∈ (Nat.toDigits 16 n).map Char.toUpper, isHexDigit c = true := by
  -- The last digit is the remainder by sixteen, and those before it are the digits of the quotient.
  induction n using Nat.strongRecOn with
  | ind n ih =>
      rw [Nat.toDigits_eq_if (by decide)]
      split
      · next hlt =>
        obtain ⟨hdigit, hvalue⟩ := hexDigit_digitChar hlt
        simp [hexValue, hvalue, hdigit]
      · next hge =>
        obtain ⟨hvalue, hdigits⟩ := ih (n / 16) (by omega)
        obtain ⟨hlast, hlastValue⟩ := hexDigit_digitChar (Nat.mod_lt n (by decide : 16 > 0))
        rw [List.map_append, List.map_singleton]
        constructor
        · rw [hexValue_concat, hvalue, hlastValue]
          omega
        · intro c hc
          rcases List.mem_append.mp hc with hc | hc
          · exact hdigits c hc
          · rw [List.mem_singleton.mp hc]
            exact hlast

theorem hexValue_hexOffset (n : Nat) : hexValue (hexOffset n).toList = n := by
  rw [hexOffset, hex, String.toList_ofList, hexValue_padded]
  exact (toDigits_hex n).1

theorem isHexDigit_of_mem_hexOffset {n : Nat} {c : Char} (h : c ∈ (hexOffset n).toList) :
    isHexDigit c = true := by
  rw [hexOffset, hex, String.toList_ofList] at h
  rcases List.mem_append.mp h with hzero | hdigit
  · rw [List.eq_of_mem_replicate hzero]
    rfl
  · exact (toDigits_hex n).2 c hdigit

theorem six_le_length_hexOffset (n : Nat) : 6 ≤ (hexOffset n).toList.length := by
  rw [hexOffset, hex, String.toList_ofList, List.length_append, List.length_replicate]
  omega

/-! ### Names of files -/

/-- The name of the file in which a script is listed for an actor. -/
def Script.fileName (script : Script) (name : String) : String :=
  safeNameWith (script.title name) "txt"

/-- The offset at the front of the name of a file, up to the first space. -/
def fileOffset (file : String) : Nat :=
  hexValue (file.toList.takeWhile (· != ' '))

theorem toList_safeName {text : String} (h : 2 < text.toList.length) :
    (safeName text).toList =
      text.toList.map fun c => if isUnsafeInFileName c then '_' else c := by
  rw [safeName]
  generalize hsafe : String.ofList
    (text.toList.map fun c => if isUnsafeInFileName c then '_' else c) = safe
  have hlength : safe.toList.length = text.toList.length := by
    rw [← hsafe, String.toList_ofList, List.length_map]
  rw [if_neg, ← hsafe, String.toList_ofList]
  intro hreserved
  simp only [Bool.or_eq_true, beq_iff_eq] at hreserved
  obtain (rfl | rfl) | rfl := hreserved
  · rw [← hlength] at h
    exact absurd h (by decide)
  · rw [← hlength] at h
    exact absurd h (by decide)
  · rw [← hlength] at h
    exact absurd h (by decide)

theorem toList_safeNameWith_txt (text : String) :
    (safeNameWith text "txt").toList = (safeName text).toList ++ ".txt".toList := by
  have hbare : String.ofList ("txt".toList.dropWhile (· == '.')) = "txt" := rfl
  rw [safeNameWith, hbare, if_neg (by decide), String.toList_append, String.toList_append,
    List.append_assoc]
  rfl

theorem isUnsafeInFileName_eq_false {c : Char} (h : isHexDigit c = true) :
    isUnsafeInFileName c = false := by
  rw [Bool.eq_false_iff]
  intro hunsafe
  rw [isUnsafeInFileName, List.contains_iff_mem] at hunsafe
  have hnone : ['/', '\\', ':', '*', '?', '"', '<', '>', '|'].all (!isHexDigit ·) := by
    decide
  have hc := List.all_eq_true.mp hnone c hunsafe
  rw [h] at hc
  cases hc

/-- The name of a listing is the offset, then a space, then whatever the reasons make of it. -/
theorem Script.exists_toList_fileName {script : Script} {name : String}
    (h : ∃ origin ∈ script.origins, origin.target = name) :
    ∃ rest, (script.fileName name).toList =
      (hexOffset script.offset.toNat).toList ++ ' ' :: rest := by
  obtain ⟨origin, horigin, hname⟩ := h
  obtain ⟨reasons, htitle, hreasons⟩ := script.title_eq name
  have hgiven : origin.reason ∈ reasons := (hreasons _).mpr ⟨origin, horigin, hname, rfl⟩
  obtain ⟨reason, others, rfl⟩ := List.exists_cons_of_ne_nil (List.ne_nil_of_mem hgiven)
  have hchars : (script.title name).toList = (hexOffset script.offset.toNat).toList ++
      ' ' :: (reason.toList ++ (String.join (others.map (" " ++ ·))).toList) := by
    rw [htitle, List.map_cons, String.join_cons]
    simp
  have hlong := six_le_length_hexOffset script.offset.toNat
  have hdigits : (hexOffset script.offset.toNat).toList.map
      (fun c => if isUnsafeInFileName c then '_' else c) =
        (hexOffset script.offset.toNat).toList := by
    refine (List.map_congr_left fun c hc => ?_).trans (List.map_id _)
    rw [isUnsafeInFileName_eq_false (isHexDigit_of_mem_hexOffset hc)]
    rfl
  have htitleLong : 2 < (script.title name).toList.length := by
    rw [hchars, List.length_append]
    omega
  rw [fileName, toList_safeNameWith_txt, toList_safeName htitleLong, hchars, List.map_append,
    hdigits, List.append_assoc]
  exact ⟨_, rfl⟩

theorem Script.fileOffset_fileName {script : Script} {name : String}
    (h : ∃ origin ∈ script.origins, origin.target = name) :
    fileOffset (script.fileName name) = script.offset.toNat := by
  obtain ⟨rest, hfile⟩ := exists_toList_fileName h
  have hdigits : ∀ c ∈ (hexOffset script.offset.toNat).toList, (c != ' ') = true := by
    intro c hc
    have hdigit := isHexDigit_of_mem_hexOffset hc
    rw [bne_iff_ne]
    rintro rfl
    cases hdigit
  rw [fileOffset, hfile, List.takeWhile_append_of_pos hdigits]
  simpa using hexValue_hexOffset script.offset.toNat

/-- The lists next to the listings have no space in their names. -/
theorem Script.fileName_ne {script : Script} {name other : String}
    (h : ∃ origin ∈ script.origins, origin.target = name) (hother : ' ' ∉ other.toList) :
    script.fileName name ≠ other := by
  obtain ⟨rest, hfile⟩ := exists_toList_fileName h
  rintro rfl
  rw [hfile] at hother
  simp at hother

namespace CallGraph

variable {bytes : Bytes} {graph : CallGraph} {container : Container}

/-- A script that an actor uses is found, and has an origin for the actor. -/
theorem exists_script_of_build (h : build container bytes = .ok graph) {name : String}
    {offset : UInt32} (hoffset : offset ∈ (graph.usage name).scripts) :
    ∃ script, graph.find? offset = some script ∧ script.offset = offset ∧
      ∃ origin ∈ script.origins, origin.target = name := by
  obtain ⟨reads, hexplore⟩ := explore_of_build h
  have hunique := (explore_complete hexplore).1.unique
  have hitem : (graph.usage name).Has (.script offset) := hoffset
  rw [(explore_indexed hexplore).usage] at hitem
  obtain ⟨origin, listing, hattests, hname, rfl⟩ := hitem
  obtain ⟨script, hfound, -, horigin⟩ := (attests_iff hunique).mp hattests
  exact ⟨script, hfound, (find?_eq_some hfound).2, origin, horigin, hname⟩

/-- Scripts of one actor that have the same file are the same script. -/
theorem eq_of_fileName_eq (h : build container bytes = .ok graph) {name : String}
    {first second : UInt32} (hfirst : first ∈ (graph.usage name).scripts)
    (hsecond : second ∈ (graph.usage name).scripts) {script other : Script}
    (hscript : graph.find? first = some script) (hother : graph.find? second = some other)
    (hfile : script.fileName name = other.fileName name) : first = second := by
  obtain ⟨_, hfound, rfl, horigin⟩ := exists_script_of_build h hfirst
  obtain rfl := Option.some.inj (hfound.symm.trans hscript)
  obtain ⟨_, hfound, rfl, hotherOrigin⟩ := exists_script_of_build h hsecond
  obtain rfl := Option.some.inj (hfound.symm.trans hother)
  apply UInt32.toNat_inj.mp
  rw [← Script.fileOffset_fileName horigin, hfile, Script.fileOffset_fileName hotherOrigin]

end CallGraph

/-! ### Writing the files -/

namespace Folder

open FileTree (Kept)

variable {folder : Folder} {tree : FileTree} {dir : Address}

/-- A list that is not empty has a file, and takes the place of no other file. -/
theorem Opens.writeList_named (h : folder.Opens tree dir) (name : String) (texts : List String) :
    (folder.writeList name texts).Ensures tree fun _ tree' =>
      (texts ≠ [] → tree'.find? (dir ++ [safeNameWith name "txt"]) =
        some (.file (lines texts).toUTF8.data)) ∧
        Kept (· = dir ++ [safeNameWith name "txt"]) tree tree' := by
  unfold Folder.writeList
  split
  · next hempty =>
    exact .pure ⟨fun hsome => absurd (List.isEmpty_iff.mp hempty) hsome, .refl _ tree⟩
  · exact (h.write name (by decide) (lines texts)).imp fun _ _ hfile => ⟨fun _ => hfile.1, hfile.2⟩

/-- The listings that are written one after the other: the latest of a name lasts. -/
theorem Opens.writeListings (h : folder.Opens tree dir) (graph : CallGraph) (name : String)
    (offsets : List UInt32) :
    (offsets.forM fun offset =>
      match graph.find? offset with
      | some script => folder.write (script.title name) "txt" (script.report name)
      | none => pure () : Filing Unit).Ensures tree fun _ tree' =>
        (∀ before offset after, offsets = before ++ offset :: after →
          ∀ script, graph.find? offset = some script →
            (∀ later ∈ after, ∀ other, graph.find? later = some other →
              other.fileName name ≠ script.fileName name) →
            tree'.find? (dir ++ [script.fileName name]) =
              some (.file (script.report name).toUTF8.data)) ∧
        Kept (fun address => ∃ offset ∈ offsets, ∃ script, graph.find? offset = some script ∧
          address = dir ++ [script.fileName name]) tree tree' := by
  refine (Opens.forM
    (fun offset address => ∃ script, graph.find? offset = some script ∧
      address = dir ++ [script.fileName name])
    (fun offset address content => ∃ script, graph.find? offset = some script ∧
      address = dir ++ [script.fileName name] ∧ content = (script.report name).toUTF8.data)
    offsets ?_ h).imp ?_
  · intro offset _ between hbetween
    cases hfound : graph.find? offset with
    | none => exact .pure ⟨nofun, .refl _ between⟩
    | some script =>
        refine (hbetween.write (script.title name) (by decide) (script.report name)).imp ?_
        rintro _ tree' ⟨hfile, hkept⟩
        refine ⟨?_, hkept.mono fun address haddress => ⟨script, rfl, haddress⟩⟩
        rintro _ _ ⟨_, hsame, rfl, rfl⟩
        cases hsame
        exact hfile
  · rintro _ tree' ⟨hleft, hkept⟩
    refine ⟨?_, hkept⟩
    intro before offset after hoffsets script hscript hlater
    refine hleft before offset after hoffsets _ _ ⟨script, hscript, rfl, rfl⟩ ?_
    rintro later hmem ⟨other, hother, haddress⟩
    have hfile := (List.cons.inj (List.append_cancel_left haddress)).1
    exact hlater later hmem other hother hfile.symm

end Folder

namespace CallGraph

variable {bytes : Bytes} {graph : CallGraph} {container : Container}

/-- All that is written for an actor lies in a directory: the listing of each of its scripts, and
the lists of its animations and paths. -/
structure Filed (graph : CallGraph) (name : String) (tree : FileTree) (dir : Address) : Prop where
  scripts : ∀ offset ∈ (graph.usage name).scripts, ∃ script, graph.find? offset = some script ∧
    tree.find? (dir ++ [script.fileName name]) = some (.file (script.report name).toUTF8.data)
  animations : (graph.usage name).animations ≠ [] → tree.find? (dir ++ ["Animations.txt"]) =
    some (.file (Folder.lines ((graph.usage name).animations.map Animation.plain)).toUTF8.data)
  paths : (graph.usage name).paths ≠ [] → tree.find? (dir ++ ["Paths.txt"]) =
    some (.file
      (Folder.lines ((graph.usage name).paths.map fun path => hexOffset path.toNat)).toUTF8.data)

theorem filed_of_writeActorScripts (h : build container bytes = .ok graph) (name : String)
    {folder : Folder} {tree : FileTree} {dir : Address} (hopens : folder.Opens tree dir) :
    (folder.writeActorScripts graph name).Ensures tree fun _ tree' =>
      graph.Filed name tree' (dir ++ [safeName name]) := by
  refine .bind ((hopens.enter name).imp fun own entered => ?_)
  rintro ⟨hown, -⟩
  refine .bind ((hown.writeListings graph name (graph.usage name).scripts).imp fun _ first => ?_)
  rintro ⟨hlistings, hfirst⟩
  refine .bind (((hown.kept hfirst).writeList_named "Animations" _).imp fun _ second => ?_)
  rintro ⟨hanimations, hsecond⟩
  refine (((hown.kept hfirst).kept hsecond).writeList_named "Paths" _).imp fun _ third => ?_
  rintro ⟨hpaths, hthird⟩
  -- A file lasts if neither list is written at its address.
  have hlasts {file : String} {content : Array UInt8} (hanim : file ≠ "Animations.txt")
      (hpath : file ≠ "Paths.txt")
      (hfile : first.find? (dir ++ [safeName name] ++ [file]) = some (.file content)) :
      third.find? (dir ++ [safeName name] ++ [file]) = some (.file content) := by
    refine hthird.file (fun heq => hpath ?_) (hsecond.file (fun heq => hanim ?_) hfile)
    · exact (List.cons.inj (List.append_cancel_left heq)).1
    · exact (List.cons.inj (List.append_cancel_left heq)).1
  constructor
  · intro offset hoffset
    obtain ⟨script, hfound, -, horigin⟩ := exists_script_of_build h hoffset
    refine ⟨script, hfound, ?_⟩
    obtain ⟨after, before, hsplit, hlast⟩ :=
      List.eq_append_cons_of_mem (List.mem_reverse.mpr hoffset)
    have hscripts : (graph.usage name).scripts = before.reverse ++ offset :: after.reverse := by
      simpa using congrArg List.reverse hsplit
    refine hlasts (Script.fileName_ne horigin (by decide)) (Script.fileName_ne horigin (by decide))
      (hlistings _ _ _ hscripts script hfound fun later hlater other hother hfile => ?_)
    have hmem : later ∈ (graph.usage name).scripts := by
      rw [hscripts]
      exact List.mem_append_right _ (List.mem_cons_of_mem _ hlater)
    have hsame := eq_of_fileName_eq h hmem hoffset hother hfound hfile
    exact hlast (hsame ▸ List.mem_reverse.mp hlater)
  · intro hsome
    refine hthird.file (fun heq => ?_) (hanimations (by simpa using hsome))
    exact absurd (List.cons.inj (List.append_cancel_left heq)).1 (by decide)
  · intro hsome
    exact hpaths (by simpa using hsome)

/-- The files of an actor stay apart, whatever the actor is called and whatever the reasons are for
which its scripts run.  Each of its scripts is found, the name of its file gives the offset back and
is not that of a list, and two scripts that differ have files that differ.  So wherever the files
are written, each of them holds what was written into it. -/
theorem script_files_apart (h : build container bytes = .ok graph) (name : String) :
    (∀ offset ∈ (graph.usage name).scripts, ∃ script, graph.find? offset = some script ∧
      fileOffset (script.fileName name) = offset.toNat ∧
      script.fileName name ≠ "Animations.txt" ∧ script.fileName name ≠ "Paths.txt") ∧
    (∀ first ∈ (graph.usage name).scripts, ∀ second ∈ (graph.usage name).scripts, first ≠ second →
      ∀ script other, graph.find? first = some script → graph.find? second = some other →
        script.fileName name ≠ other.fileName name) ∧
    ∀ (folder : Folder) (tree : FileTree) (dir : Address), folder.Opens tree dir →
      (folder.writeActorScripts graph name).Ensures tree fun _ tree' =>
        graph.Filed name tree' (dir ++ [safeName name]) := by
  refine ⟨?_, ?_, fun folder tree dir => filed_of_writeActorScripts h name⟩
  · intro offset hoffset
    obtain ⟨script, hfound, rfl, horigin⟩ := exists_script_of_build h hoffset
    exact ⟨script, hfound, Script.fileOffset_fileName horigin,
      Script.fileName_ne horigin (by decide), Script.fileName_ne horigin (by decide)⟩
  · intro first hfirst second hsecond hne script other hscript hother hfile
    exact hne (eq_of_fileName_eq h hfirst hsecond hscript hother hfile)

end CallGraph

/-! ### Ids that look alike -/

/-- A whole file: two scripts of a `G`, whose ids differ in nothing but a slash and a colon. -/
def Bytes.homonyms : Bytes :=
  #[76, 0, 0, 0, 0, 0, 0, 0, 0, 0, 0, 0, 0, 0, 0, 0, 2, 0, 0, 0,
    8, 65, 36, 71, 95, 48, 47, 32, 65, 58, 0, 0, 0, 8, 65, 36, 71, 95, 48, 58, 32, 65, 59, 0, 0, 0,
    0, 0, 0, 0, 0, 0, 0, 0, 0, 0, 0, 0, 0xff, 0xff]

def Container.homonyms : Container :=
  ⟨"L", 0, [("A$G_0/ A", 58), ("A$G_0: A", 59)], [], [], []⟩

theorem Container.parse_homonyms : Container.parse .homonyms = .ok .homonyms := by
  decide +kernel

namespace CallGraph

def homonyms : CallGraph :=
  (empty.insert ⟨Listing.parse .homonyms 59, [.ofTable "A" "G" "Init (id 0: A)"]⟩).insert
    ⟨Listing.parse .homonyms 58, [.ofTable "A" "G" "Init (id 0/ A)"]⟩

theorem build_homonyms : build .homonyms .homonyms = .ok homonyms := by
  have hleads : tableLeads .homonyms = .ok [(59, .ofTable "A" "G" "Init (id 0: A)"),
      (58, .ofTable "A" "G" "Init (id 0/ A)")] := by decide +kernel
  have hcalls : (Listing.parse .homonyms 59).calls = [] ∧ (Listing.parse .homonyms 58).calls = [] :=
    by decide +kernel
  have hfresh : (empty.insert ⟨Listing.parse .homonyms 59,
      [.ofTable "A" "G" "Init (id 0: A)"]⟩).find? 58 = none := by decide +kernel
  have hsearch : (search .homonyms 62 [(59, .ofTable "A" "G" "Init (id 0: A)"),
      (58, .ofTable "A" "G" "Init (id 0/ A)")] empty []).1 = homonyms := by
    rw [search_new (by decide) rfl 61, callLeads, hcalls.1, List.map_nil, List.reverse_nil,
      List.nil_append, search_new (by decide) hfresh 60, callLeads, hcalls.2, List.map_nil,
      List.reverse_nil, List.nil_append, search.eq_def]
    rfl
  have hbuild : build .homonyms .homonyms = .ok (search .homonyms 62
      [(59, .ofTable "A" "G" "Init (id 0: A)"), (58, .ofTable "A" "G" "Init (id 0/ A)")]
      empty []).1 := by
    simp only [build, explore, hleads, bind, Except.bind, pure, Except.pure]
    rfl
  rw [hbuild, hsearch]

/-- The safe forms of the reasons are the same, but the offsets keep the files apart. -/
theorem script_files_apart_homonyms :
    Container.parse .homonyms = .ok .homonyms ∧ build .homonyms .homonyms = .ok homonyms ∧
      ∃ first second, homonyms.find? 58 = some first ∧ homonyms.find? 59 = some second ∧
        first.fileName "G" = "00003A Init (id 0_ A).txt" ∧
        second.fileName "G" = "00003B Init (id 0_ A).txt" ∧
        first.fileName "G" ≠ second.fileName "G" ∧
        ∃ tree, ((Folder.fresh .empty).writeActorScripts homonyms "G").run .empty = (.ok (), tree) ∧
          homonyms.Filed "G" tree ["G"] := by
  obtain ⟨-, hapart, hfiled⟩ := script_files_apart build_homonyms "G"
  have hfound : ∃ first second, homonyms.find? 58 = some first ∧ homonyms.find? 59 = some second :=
    ⟨⟨Listing.parse .homonyms 58, [.ofTable "A" "G" "Init (id 0/ A)"]⟩,
      ⟨Listing.parse .homonyms 59, [.ofTable "A" "G" "Init (id 0: A)"]⟩, by decide +kernel⟩
  obtain ⟨first, second, hfirst, hsecond⟩ := hfound
  have hnames : (homonyms.find? 58).map (·.fileName "G") = some "00003A Init (id 0_ A).txt" ∧
      (homonyms.find? 59).map (·.fileName "G") = some "00003B Init (id 0_ A).txt" := by
    decide +kernel
  rw [hfirst, hsecond] at hnames
  have hwritten :
      (((Folder.fresh .empty).writeActorScripts homonyms "G").run .empty).1 = .ok () := by
    decide +kernel
  refine ⟨Container.parse_homonyms, build_homonyms, first, second, hfirst, hsecond,
    Option.some.inj hnames.1, Option.some.inj hnames.2, ?_, _, Prod.ext hwritten rfl, ?_⟩
  · exact hapart 58 (by decide +kernel) 59 (by decide +kernel) (by decide) first second hfirst
      hsecond
  · exact hfiled _ _ [] (Folder.opens_fresh rfl) () _ (Prod.ext hwritten rfl)

end CallGraph

end LevelScript
