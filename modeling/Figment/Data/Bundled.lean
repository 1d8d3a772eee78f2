import Figment.Data.Store
/-!
The bundled data: names, football, telephone numbers, codes and addresses for three locales.
-/

namespace Figment.Bundled

def english : Tree := .table [
  ("code", .table [
    ("isbn10", .text "#\x7bregexify '\\d\x7b9\x7d[0-9X]'\x7d")]),
  ("englandfootball", .table [
    ("leagues", .list [
      "Premier League", "Championship", "League One", "League Two", "National League"]),
    ("teams", .list [
      "Arsenal", "Aston Villa", "Brentford", "Brighton & Hove Albion", "Chelsea", "Crystal Palace",
      "Everton", "Fulham", "Leeds United", "Liverpool", "Manchester City", "Manchester United",
      "Newcastle United", "Nottingham Forest", "Tottenham Hotspur", "West Ham United"])]),
  ("name", .table [
    ("first_name", .list [
      "Alice", "Brian", "Chloe", "Daniel", "Emma", "Felix", "Grace", "Henry", "Isla", "Jack"]),
    ("last_name", .list [
      "Adams", "Baker", "Clarke", "Davies", "Evans", "Foster", "Green", "Hughes", "Jones",
      "Taylor"]),
    ("name", .list [
      "#\x7bfirst_name\x7d #\x7blast_name\x7d",
      "#\x7bName.first_name\x7d #\x7bName.last_name\x7d",
      "#\x7bprefix\x7d #\x7bfirst_name\x7d #\x7blast_name\x7d"]),
    ("prefix", .list ["Mr.", "Mrs.", "Ms.", "Dr."]),
    ("username", .list ["#\x7bletterify '?????', 'false'\x7d#\x7bnumerify '##'\x7d"])]),
  ("phone_number", .table [
    ("formats", .list ["#\x7bnumerify '###-###-####'\x7d", "#\x7bnumerify '(###) ###-####'\x7d"])])]

def british : Tree := .table [
  ("address", .table [
    ("postcode", .list [
      "#\x7bregexify '[A-Z]\x7b2\x7d[0-9]\x7b1,2\x7d [0-9][A-Z]\x7b2\x7d'\x7d"])]),
  ("name", .table [
    ("first_name", .list [
      "Oliver", "Amelia", "Harry", "Olivia", "George", "Isla", "Noah", "Ava"])]),
  ("phone_number", .table [
    ("formats", .list ["#\x7bnumerify '01### ######'\x7d", "#\x7bnumerify '07### ######'\x7d"])])]

def german : Tree := .table [
  ("address", .table [
    ("postcode", .list ["#\x7bnumerify '#####'\x7d"])]),
  ("name", .table [
    ("first_name", .list [
      "Anna", "Ben", "Clara", "David", "Emilia", "Finn", "Hannah", "Jonas", "Lena", "Paul"]),
    ("last_name", .list [
      "Müller", "Schmidt", "Schneider", "Fischer", "Weber", "Meyer", "Wagner", "Becker"]),
    ("prefix", .list ["Herr", "Frau", "Dr."])]),
  ("phone_number", .table [
    ("formats", .list ["#\x7bnumerify '0### #######'\x7d"])])]

def store : Store :=
  ((Store.empty.merge "en" english).merge "en-GB" british).merge "de" german

end Figment.Bundled
