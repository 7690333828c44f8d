import LinkGuard.Asset

/-!
# Embedded assets

The templates and the style sheet that every build carries: the base page, its style sheet, and
one warning fragment for each kind of threat that has one.
-/

namespace LinkGuard.Asset

/-- Lines of a text, each ended by a line feed. -/
def lines (texts : List String) : String :=
  String.join (texts.map (· ++ "\n"))

/-- The page every warning is composed into. -/
def basePage : String := lines [
  "<!DOCTYPE html>",
  "<html lang=\"en\">",
  "<head>",
  "  <meta charset=\"utf-8\">",
  "  <meta name=\"viewport\" content=\"width=device-width, initial-scale=1\">",
  "  <title>Warning - \x7b\x7bname\x7d\x7d</title>",
  "  <link rel=\"stylesheet\" href=\"/public/interstitial.css\">",
  "</head>",
  "<body>",
  "  <main class=\"interstitial interstitial-\x7b\x7bthreatType\x7d\x7d\">",
  "    <h1>The site ahead may be unsafe</h1>",
  "    \x7b\x7b> threat\x7d\x7d",
  "    <p class=\"target\">",
  "      Requested address: <code>\x7b\x7burl\x7d\x7d</code>",
  "    </p>",
  "    <p class=\"actions\">",
  "      <a class=\"back\" href=\"javascript:history.back()\">Back to safety</a>",
  "      <a class=\"proceed\" href=\"\x7b\x7burl\x7d\x7d\" rel=\"noreferrer\">Continue to \x7b\x7bhost\x7d\x7d anyway</a>",
  "    </p>",
  "    <footer>Advisory provided by Google Web Risk.</footer>",
  "  </main>",
  "</body>",
  "</html>"]

/-- The style sheet of the warning pages. -/
def styleSheet : String := lines [
  "body \x7b",
  "  margin: 0;",
  "  background: #b71c1c;",
  "  color: #fff;",
  "  font-family: -apple-system, \"Segoe UI\", Roboto, Helvetica, Arial, sans-serif;",
  "\x7d",
  "",
  ".interstitial \x7b",
  "  max-width: 40rem;",
  "  margin: 10vh auto;",
  "  padding: 0 1.5rem;",
  "\x7d",
  "",
  ".interstitial h1 \x7b",
  "  font-size: 1.75rem;",
  "  font-weight: 500;",
  "\x7d",
  "",
  ".threat h2 \x7b",
  "  font-size: 1.1rem;",
  "  text-transform: uppercase;",
  "  letter-spacing: 0.05em;",
  "\x7d",
  "",
  ".target code \x7b",
  "  word-break: break-all;",
  "\x7d",
  "",
  ".actions a \x7b",
  "  display: inline-block;",
  "  margin-right: 1rem;",
  "  color: #fff;",
  "\x7d",
  "",
  ".actions .back \x7b",
  "  padding: 0.5rem 1rem;",
  "  background: #fff;",
  "  color: #b71c1c;",
  "  border-radius: 4px;",
  "  text-decoration: none;",
  "\x7d",
  "",
  "footer \x7b",
  "  margin-top: 3rem;",
  "  font-size: 0.8rem;",
  "  opacity: 0.8;",
  "\x7d"]

/-- The fragment for malware. -/
def malware : String := lines [
  "<section class=\"threat\">",
  "  <h2>\x7b\x7bname\x7d\x7d</h2>",
  "  <p>",
  "    Attackers currently on <strong>\x7b\x7bhost\x7d\x7d</strong> might attempt to install",
  "    dangerous programs on your computer that steal or delete your information",
  "    (for example, photos, passwords, messages, and credit cards).",
  "  </p>",
  "</section>"]

/-- The fragment for unwanted software. -/
def unwantedSoftware : String := lines [
  "<section class=\"threat\">",
  "  <h2>\x7b\x7bname\x7d\x7d</h2>",
  "  <p>",
  "    <strong>\x7b\x7bhost\x7d\x7d</strong> might try to trick you into installing programs",
  "    that harm your browsing experience, for example by changing your homepage",
  "    or showing extra ads on sites you visit.",
  "  </p>",
  "</section>"]

/-- The fragment for both kinds of social engineering. -/
def socialEngineering : String := lines [
  "<section class=\"threat\">",
  "  <h2>\x7b\x7bname\x7d\x7d</h2>",
  "  <p>",
  "    Attackers on <strong>\x7b\x7bhost\x7d\x7d</strong> might trick you into doing something",
  "    dangerous like installing software or revealing your personal information",
  "    (for example, passwords, phone numbers, or credit cards).",
  "  </p>",
  "</section>"]

/-- The embedded assets by path, in order. -/
def embedded : List (String × String) := [
  ("/interstitial.html", basePage),
  ("/interstitial.css", styleSheet),
  ("/malware.tmpl", malware),
  ("/unwanted.tmpl", unwantedSoftware),
  ("/social_engineering.tmpl", socialEngineering)]

/-- The store of the embedded assets. -/
def embeddedStore : AssetStore :=
  listed embedded

end LinkGuard.Asset
