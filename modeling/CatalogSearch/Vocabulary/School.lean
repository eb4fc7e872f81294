import CatalogSearch.Vocabulary.Basic

/-! # Schools

The vocabularies that place a resource in the school system: the type of school, the federal state,
the grade, the school year and the textbook series. Sources of the DUF dialect have labels of their
own for two types of school (`SchoolType.labelIn`). -/

namespace CatalogSearch

/-- A **type of school**. -/
inductive SchoolType where
  | kindergarten
  | vorschule
  | grundschule
  | foerderschuleLernen
  | hauptschule
  | realschule
  | gymnasium
  | integrierteGesamtschule
  | gymnasialeOberstufe
  | fachoberschule
  | berufsschule
  | foerderschuleEmotionaleEntwicklung
  | foerderschuleGeistigeEntwicklung
  | foerderschuleSprache
  deriving DecidableEq, Repr

namespace SchoolType

/-- The terms in the order they are listed in. -/
def terms : List SchoolType :=
  [.kindergarten, .vorschule, .grundschule, .foerderschuleLernen, .hauptschule, .realschule,
   .gymnasium, .integrierteGesamtschule, .gymnasialeOberstufe, .fachoberschule, .berufsschule,
   .foerderschuleEmotionaleEntwicklung, .foerderschuleGeistigeEntwicklung, .foerderschuleSprache]

/-- The two spellings of a term. -/
def term : SchoolType → Term
  | .kindergarten => ⟨"GERMAN_SCHOOL_1", "Kindergarten"⟩
  | .vorschule => ⟨"GERMAN_SCHOOL_2", "Vorschule"⟩
  | .grundschule => ⟨"GERMAN_SCHOOL_3", "Grundschule"⟩
  | .foerderschuleLernen => ⟨"GERMAN_SCHOOL_4", "Förderschule Lernen"⟩
  | .hauptschule => ⟨"GERMAN_SCHOOL_5", "Hauptschule"⟩
  | .realschule => ⟨"GERMAN_SCHOOL_6", "Realschule"⟩
  | .gymnasium => ⟨"GERMAN_SCHOOL_7", "Gymnasium"⟩
  | .integrierteGesamtschule => ⟨"GERMAN_SCHOOL_8", "Integrierte Gesamtschule"⟩
  | .gymnasialeOberstufe => ⟨"GERMAN_SCHOOL_9", "Gymnasiale Oberstufe"⟩
  | .fachoberschule => ⟨"GERMAN_SCHOOL_10", "Fachoberschule"⟩
  | .berufsschule => ⟨"GERMAN_SCHOOL_11", "Berufsschule"⟩
  | .foerderschuleEmotionaleEntwicklung =>
    ⟨"GERMAN_SCHOOL_12", "Förderschule emotionale und soziale Entwicklung"⟩
  | .foerderschuleGeistigeEntwicklung => ⟨"GERMAN_SCHOOL_13", "Förderschule geistige Entwicklung"⟩
  | .foerderschuleSprache => ⟨"GERMAN_SCHOOL_14", "Förderschule Sprache"⟩

/-- Every term is listed. -/
theorem mem_terms (t : SchoolType) : t ∈ terms := by cases t <;> decide

instance : Vocabulary SchoolType where
  kind := "SchoolType"
  terms := terms
  term := term

/-- The label of a type of school in a dialect. -/
def labelIn : Dialect → SchoolType → String
  | .duf, .realschule => "Mittlere Schulform"
  | .duf, .integrierteGesamtschule => "Gymnasium"
  | _, t => t.term.label

/-- The common dialect has the listed labels. -/
@[simp] theorem labelIn_common (t : SchoolType) : labelIn .common t = t.term.label := rfl

end SchoolType

/-- A German **federal state**. -/
inductive FederalState where
  | badenWuerttemberg
  | bayern
  | berlin
  | brandenburg
  | bremen
  | hamburg
  | hessen
  | mecklenburgVorpommern
  | niedersachsen
  | nordrheinWestfalen
  | rheinlandPfalz
  | saarland
  | sachsen
  | sachsenAnhalt
  | schleswigHolstein
  | thueringen
  deriving DecidableEq, Repr

namespace FederalState

/-- The terms in the order they are listed in. -/
def terms : List FederalState :=
  [.badenWuerttemberg, .bayern, .berlin, .brandenburg, .bremen, .hamburg, .hessen,
   .mecklenburgVorpommern, .niedersachsen, .nordrheinWestfalen, .rheinlandPfalz, .saarland,
   .sachsen, .sachsenAnhalt, .schleswigHolstein, .thueringen]

/-- The two spellings of a term. -/
def term : FederalState → Term
  | .badenWuerttemberg => ⟨"BADEN_WURTEMBERG", "Baden-Württemberg"⟩
  | .bayern => ⟨"BAYERN", "Bayern"⟩
  | .berlin => ⟨"BERLIN", "Berlin"⟩
  | .brandenburg => ⟨"BRANDENBURG", "Brandenburg"⟩
  | .bremen => ⟨"BREMEN", "Bremen"⟩
  | .hamburg => ⟨"HAMBURG", "Hamburg"⟩
  | .hessen => ⟨"HESSEN", "Hessen"⟩
  | .mecklenburgVorpommern => ⟨"MECKLENBURG_VORPOMMERN", "Mecklenburg-Vorpommern"⟩
  | .niedersachsen => ⟨"NIEDERSACHSEN", "Niedersachsen"⟩
  | .nordrheinWestfalen => ⟨"NORDRHEIN_WESTFALEN", "Nordrhein-Westfalen"⟩
  | .rheinlandPfalz => ⟨"RHEINLAND_PFALZ", "Rheinland-Pfalz"⟩
  | .saarland => ⟨"SAARLAND", "Saarland"⟩
  | .sachsen => ⟨"SACHSEN", "Sachsen"⟩
  | .sachsenAnhalt => ⟨"SACHSEN_ANHALT", "Sachsen-Anhalt"⟩
  | .schleswigHolstein => ⟨"SCHLESWIG_HOLSTEIN", "Schleswig-Holstein"⟩
  | .thueringen => ⟨"THURINGEN", "Thüringen"⟩

/-- Every term is listed. -/
theorem mem_terms (t : FederalState) : t ∈ terms := by cases t <;> decide

instance : Vocabulary FederalState where
  kind := "FederalState"
  terms := terms
  term := term

end FederalState

/-- A **grade**: a class of a school, or a year of learning a language. -/
inductive Grade where
  | klasse4
  | klasse5
  | klasse6
  | klasse7
  | klasse8
  | klasse9
  | klasse10
  | lernjahr1
  | lernjahr2
  deriving DecidableEq, Repr

namespace Grade

/-- The terms in the order they are listed in. -/
def terms : List Grade :=
  [.klasse4, .klasse5, .klasse6, .klasse7, .klasse8, .klasse9, .klasse10, .lernjahr1, .lernjahr2]

/-- The two spellings of a term. -/
def term : Grade → Term
  | .klasse4 => ⟨"GRADE_1", "4. Klasse"⟩
  | .klasse5 => ⟨"GRADE_2", "5. Klasse"⟩
  | .klasse6 => ⟨"GRADE_3", "6. Klasse"⟩
  | .klasse7 => ⟨"GRADE_4", "7. Klasse"⟩
  | .klasse8 => ⟨"GRADE_5", "8. Klasse"⟩
  | .klasse9 => ⟨"GRADE_6", "9. Klasse"⟩
  | .klasse10 => ⟨"GRADE_7", "10. Klasse"⟩
  | .lernjahr1 => ⟨"GRADE_8", "1. Lernjahr"⟩
  | .lernjahr2 => ⟨"GRADE_9", "2. Lernjahr"⟩

/-- Every term is listed. -/
theorem mem_terms (t : Grade) : t ∈ terms := by cases t <;> decide

instance : Vocabulary Grade where
  kind := "Grade"
  terms := terms
  term := term

end Grade

/-- A **school year**, the unit callers state age ranges in. -/
inductive StudyYear where
  | year1
  | year2
  | year3
  | year4
  | year5
  | year6
  | year7
  | year8
  | year9
  | year10
  | year11
  | year12
  | year13
  deriving DecidableEq, Repr

namespace StudyYear

/-- The terms in the order they are listed in. -/
def terms : List StudyYear :=
  [.year1, .year2, .year3, .year4, .year5, .year6, .year7, .year8, .year9, .year10, .year11,
   .year12, .year13]

/-- The two spellings of a term. -/
def term : StudyYear → Term
  | .year1 => ⟨"YEAR_1", "1"⟩
  | .year2 => ⟨"YEAR_2", "2"⟩
  | .year3 => ⟨"YEAR_3", "3"⟩
  | .year4 => ⟨"YEAR_4", "4"⟩
  | .year5 => ⟨"YEAR_5", "5"⟩
  | .year6 => ⟨"YEAR_6", "6"⟩
  | .year7 => ⟨"YEAR_7", "7"⟩
  | .year8 => ⟨"YEAR_8", "8"⟩
  | .year9 => ⟨"YEAR_9", "9"⟩
  | .year10 => ⟨"YEAR_10", "10"⟩
  | .year11 => ⟨"YEAR_11", "11"⟩
  | .year12 => ⟨"YEAR_12", "12"⟩
  | .year13 => ⟨"YEAR_13", "13"⟩

/-- Every term is listed. -/
theorem mem_terms (t : StudyYear) : t ∈ terms := by cases t <;> decide

instance : Vocabulary StudyYear where
  kind := "StudyYear"
  terms := terms
  term := term

end StudyYear

/-- A **textbook series** a resource belongs to. -/
inductive SchoolBook where
  | access
  | aPlusNeueAusgabe
  | aToiNeueAusgabe
  | foerderschuleLernen
  | biosphaere
  | chemieFokus
  | deutschbuchGym
  | deutschbuchMsf
  | doppelKlick
  | dreifachMathe
  | dWieDeutsch
  | forumGeschichte
  | fundamenteDerMathematik
  | headlight
  | highlight
  | lehrwerksunabhaengig
  | lighthouse
  | muttersprachePlus
  | parallelo
  | paralleloBasis
  | physikUniversum
  deriving DecidableEq, Repr

namespace SchoolBook

/-- The terms in the order they are listed in. -/
def terms : List SchoolBook :=
  [.access, .aPlusNeueAusgabe, .aToiNeueAusgabe, .foerderschuleLernen, .biosphaere, .chemieFokus,
   .deutschbuchGym, .deutschbuchMsf, .doppelKlick, .dreifachMathe, .dWieDeutsch, .forumGeschichte,
   .fundamenteDerMathematik, .headlight, .highlight, .lehrwerksunabhaengig, .lighthouse,
   .muttersprachePlus, .parallelo, .paralleloBasis, .physikUniversum]

/-- The two spellings of a term. -/
def term : SchoolBook → Term
  | .access => ⟨"SCHOOL_BOOK_1", "Access"⟩
  | .aPlusNeueAusgabe => ⟨"SCHOOL_BOOK_2", "À Plus Neue Ausgabe"⟩
  | .aToiNeueAusgabe => ⟨"SCHOOL_BOOK_3", "À toi Neue Ausgabe"⟩
  | .foerderschuleLernen => ⟨"SCHOOL_BOOK_4", "Förderschule Lernen"⟩
  | .biosphaere => ⟨"SCHOOL_BOOK_5", "Biosphäre"⟩
  | .chemieFokus => ⟨"SCHOOL_BOOK_6", "Chemie Fokus"⟩
  | .deutschbuchGym => ⟨"SCHOOL_BOOK_7", "Deutschbuch GYM"⟩
  | .deutschbuchMsf => ⟨"SCHOOL_BOOK_8", "Deutschbuch MSF"⟩
  | .doppelKlick => ⟨"SCHOOL_BOOK_9", "DoppelKlick"⟩
  | .dreifachMathe => ⟨"SCHOOL_BOOK_10", "Dreifach Mathe"⟩
  | .dWieDeutsch => ⟨"SCHOOL_BOOK_11", "D wie Deutsch"⟩
  | .forumGeschichte => ⟨"SCHOOL_BOOK_12", "Forum Geschichte"⟩
  | .fundamenteDerMathematik => ⟨"SCHOOL_BOOK_13", "Fundamente der Mathematik"⟩
  | .headlight => ⟨"SCHOOL_BOOK_14", "Headlight"⟩
  | .highlight => ⟨"SCHOOL_BOOK_15", "Highlight"⟩
  | .lehrwerksunabhaengig => ⟨"SCHOOL_BOOK_16", "Lehrwerksunabhängig"⟩
  | .lighthouse => ⟨"SCHOOL_BOOK_17", "Lighthouse"⟩
  | .muttersprachePlus => ⟨"SCHOOL_BOOK_18", "Muttersprache plus"⟩
  | .parallelo => ⟨"SCHOOL_BOOK_19", "Parallelo"⟩
  | .paralleloBasis => ⟨"SCHOOL_BOOK_20", "Parallelo Basis"⟩
  | .physikUniversum => ⟨"SCHOOL_BOOK_21", "Physik Universum"⟩

/-- Every term is listed. -/
theorem mem_terms (t : SchoolBook) : t ∈ terms := by cases t <;> decide

instance : Vocabulary SchoolBook where
  kind := "SchoolBook"
  terms := terms
  term := term

end SchoolBook

end CatalogSearch
