/-
The Typst sources of the built-in templates, line by line.
-/

namespace Typeset.Template

/-- A file of these lines. -/
def fileOfLines (lines : List String) : String := String.join (lines.map (· ++ "\n"))

/-- A clean sans-serif article with tinted code blocks. -/
def modernTech : String :=
  fileOfLines [
    "// Clean sans-serif article layout with tinted code blocks.",
    "#let article(title: none, authors: (), lang: \"zh\", body) = \x7b",
    "  set document(title: title, author: authors)",
    "  set page(paper: \"a4\", margin: (x: 2.2cm, y: 2.4cm), numbering: \"1\")",
    "  set text(lang: lang, size: 10.5pt, font: (\"Inter\", \"Noto Sans CJK SC\", \"Noto Sans\"))",
    "  set par(justify: true, leading: 0.75em)",
    "  show heading: set block(above: 1.4em, below: 0.8em)",
    "  show link: set text(fill: rgb(\"#2563eb\"))",
    "  show raw.where(block: true): block.with(",
    "    fill: luma(246),",
    "    inset: 10pt,",
    "    radius: 4pt,",
    "    width: 100%,",
    "  )",
    "  show quote: block.with(stroke: (left: 2pt + luma(200)), inset: (left: 10pt, y: 4pt))",
    "",
    "  if title != none and title != \"\" \x7b",
    "    align(center, text(size: 20pt, weight: \"bold\", title))",
    "    if authors.len() > 0 \x7b",
    "      align(center, text(fill: luma(100), authors.join(\", \")))",
    "    \x7d",
    "    v(1.2em)",
    "  \x7d",
    "  body",
    "\x7d"]

/-- A serif article with a centered title block and a ruled header. -/
def classicEditorial : String :=
  fileOfLines [
    "// Serif layout with a centered title block and ruled header.",
    "#let article(title: none, authors: (), lang: \"zh\", body) = \x7b",
    "  set document(title: title, author: authors)",
    "  set page(",
    "    paper: \"a4\",",
    "    margin: (x: 2.6cm, y: 2.8cm),",
    "    numbering: \"1\",",
    "    header: if title != none and title != \"\" \x7b",
    "      align(right, text(size: 8pt, style: \"italic\", title))",
    "    \x7d,",
    "  )",
    "  set text(lang: lang, size: 11pt, font: (\"Libertinus Serif\", \"Noto Serif CJK SC\", \"Noto Serif\"))",
    "  set par(justify: true, first-line-indent: 1.5em, leading: 0.8em)",
    "  show heading: set text(weight: \"regular\", style: \"italic\")",
    "  show raw.where(block: true): block.with(stroke: 0.5pt + luma(180), inset: 8pt, width: 100%)",
    "",
    "  if title != none and title != \"\" \x7b",
    "    align(center)[",
    "      #text(size: 22pt, title)",
    "      #if authors.len() > 0 [",
    "        \\",
    "        #text(size: 11pt, style: \"italic\", authors.join(\" · \"))",
    "      ]",
    "    ]",
    "    line(length: 100%, stroke: 0.6pt)",
    "    v(1em)",
    "  \x7d",
    "  body",
    "\x7d"]

end Typeset.Template
