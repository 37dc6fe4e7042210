namespace Spiderworks.Script

-- The fragments that stand inside the guarded block bring their own indent.
def imports : List String :=
  ["import csv", "import json", "import os", "import sys", "from datetime import datetime"]

-- Reads the surroundings of the run and prints results.
def environment : List String :=
  ["OUTPUT_DIR = os.environ.get('OUTPUT_DIR', '.')",
    "",
    "",
    "def get_config():",
    "    return json.loads(SPIDER_CONFIG_JSON)",
    "",
    "",
    "def _emit_result(result):",
    "    result = dict(result)",
    "    result['spider_id'] = SPIDER_ID",
    "    result['execution_id'] = EXECUTION_ID",
    "    print(json.dumps(result, ensure_ascii=False, default=str), flush=True)"]

-- Log lines go to the output.
def logToOutput : List String :=
  ["def log_message(level, message):",
    "    try:",
    "        timestamp = datetime.now().isoformat()",
    "        print(f\"[\x7btimestamp\x7d] [\x7blevel\x7d] \x7bmessage\x7d\", flush=True)",
    "    except Exception:",
    "        pass"]

-- Log lines go to the error stream, so that the output holds results only.
def logToErrors : List String :=
  ["def log_message(level, message):",
    "    try:",
    "        timestamp = datetime.now().isoformat()",
    "        print(f\"[\x7btimestamp\x7d] [\x7blevel\x7d] \x7bmessage\x7d\", file=sys.stderr, flush=True)",
    "    except Exception:",
    "        pass"]

-- Data goes into files of the output directory.
def saveToFiles : List String :=
  ["def _is_table(data):",
    "    return isinstance(data, list) and len(data) > 0 and all(isinstance(row, dict) for row in data)",
    "",
    "",
    "def save_data(data, filename, format='json'):",
    "    filepath = os.path.join(OUTPUT_DIR, filename)",
    "    try:",
    "        parent = os.path.dirname(filepath)",
    "        if parent:",
    "            os.makedirs(parent, exist_ok=True)",
    "        if format == 'json':",
    "            with open(filepath, 'w', encoding='utf-8') as f:",
    "                json.dump(data, f, ensure_ascii=False, indent=2, default=str)",
    "        elif format == 'csv' and _is_table(data):",
    "            fieldnames = []",
    "            for row in data:",
    "                for key in row:",
    "                    if key not in fieldnames:",
    "                        fieldnames.append(key)",
    "            with open(filepath, 'w', encoding='utf-8', newline='') as f:",
    "                writer = csv.DictWriter(f, fieldnames=fieldnames)",
    "                writer.writeheader()",
    "                writer.writerows(data)",
    "        else:",
    "            with open(filepath, 'w', encoding='utf-8') as f:",
    "                f.write(str(data))",
    "        log_message('INFO', f'Data saved to \x7bfilename\x7d')",
    "        return filepath",
    "    except Exception as e:",
    "        log_message('ERROR', f'Failed to save data to \x7bfilename\x7d: \x7be\x7d')",
    "        return None"]

-- Data is kept for the one result that is printed at the end.
def saveToBuffer : List String :=
  ["_api_results = []",
    "",
    "",
    "def save_data(data, filename=None, format='json'):",
    "    global _api_results",
    "    _api_results = data if isinstance(data, list) else [data]",
    "    log_message('INFO', f'Prepared \x7blen(_api_results)\x7d records')",
    "    return _api_results"]

-- Ends the guarded block.
def filesEpilogue : List String :=
  ["    log_message('INFO', 'Spider execution completed successfully')"]

-- Ends the guarded block with the result.
def directEpilogue : List String :=
  ["    def save_data(data, filename=None, format='json'):",
    "        global _api_results",
    "        _api_results = data if isinstance(data, list) else [data]",
    "        log_message('INFO', f'Prepared \x7blen(_api_results)\x7d records')",
    "        return _api_results",
    "",
    "    if callable(globals().get('spider_main')):",
    "        _returned = spider_main()",
    "        if not _api_results and isinstance(_returned, list):",
    "            _api_results = _returned",
    "        if _api_results:",
    "            _emit_result(\x7b",
    "                'success': True,",
    "                'data': _api_results,",
    "                'count': len(_api_results),",
    "                'url': globals().get('url', ''),",
    "                'timestamp': datetime.now().timestamp(),",
    "                'message': f'Extracted \x7blen(_api_results)\x7d records',",
    "            \x7d)",
    "        else:",
    "            _emit_result(\x7b",
    "                'success': False,",
    "                'data': [],",
    "                'count': 0,",
    "                'message': 'No data extracted',",
    "            \x7d)",
    "    else:",
    "        _emit_result(\x7b",
    "            'success': False,",
    "            'data': [],",
    "            'count': 0,",
    "            'error': 'spider_main function not found',",
    "        \x7d)",
    "    log_message('INFO', 'Direct call completed')"]

-- Reports an exception and fails.
def filesHandler : List String :=
  ["except Exception as e:",
    "    import traceback",
    "    error_msg = f'Spider execution failed: \x7be\x7d'",
    "    traceback_msg = traceback.format_exc()",
    "    log_message('ERROR', error_msg)",
    "    log_message('ERROR', f'Detailed traceback:\\n\x7btraceback_msg\x7d')",
    "    print(f'ERROR: \x7berror_msg\x7d', file=sys.stderr, flush=True)",
    "    print(f'TRACEBACK:\\n\x7btraceback_msg\x7d', file=sys.stderr, flush=True)",
    "    sys.exit(1)"]

-- Reports an exception as a result and fails.
def directHandler : List String :=
  ["except Exception as e:",
    "    import traceback",
    "    error_msg = f'Spider execution failed: \x7be\x7d'",
    "    traceback_msg = traceback.format_exc()",
    "    log_message('ERROR', error_msg)",
    "    log_message('ERROR', f'Detailed traceback:\\n\x7btraceback_msg\x7d')",
    "    _emit_result(\x7b",
    "        'success': False,",
    "        'data': [],",
    "        'count': 0,",
    "        'error': error_msg,",
    "        'traceback': traceback_msg,",
    "    \x7d)",
    "    sys.exit(1)"]

end Spiderworks.Script
